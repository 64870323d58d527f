/-
# Error documents are read back

A reader who knows the elements of an error document finds each node of the
report in it: whether it is tagged, its id and its description.  Whatever a
description holds, it makes no element and breaks none.

* `ErrorReport.read?_document` : the elements of a document are those of its nodes.
* `ErrorReport.document_decodes` : so the nodes are read back, but for their status.
-/
import DavGateway.Proofs.Markup.Document
import DavGateway.Report.Document

namespace DavGateway

open Markup

/-- What a document tells of a node: all but its status. -/
structure ReportEntry where
  tagged : Bool
  id : Int
  description : String
  deriving DecidableEq, Repr

/-! ## What stands in a document -/

namespace ReportNode

/-- What a document tells of the node. -/
def entry (n : ReportNode) : ReportEntry := ⟨n.tagged, n.id, n.description⟩

/-- The element that marks a tagged node. -/
def marker : Element where
  name := "C:error"

/-- The element that describes the node to a reader, on lines of its own. -/
def readable (n : ReportNode) : Element where
  name := "m:human-readable"
  attributes := [⟨"errcode", Decimal.intText n.id⟩]
  text := "\n" ++ quoteText n.description ++ "\n"

/-- The elements of the node: its marker if it is tagged, and right behind it its description. -/
def flatElements (n : ReportNode) : List Element :=
  (if n.tagged then [marker] else []) ++ [n.readable]

end ReportNode

namespace ErrorReport

/-- The declarations of namespaces in the root element. -/
def namespaces (r : ErrorReport) : List Attribute :=
  [⟨"xmlns:D", "DAV:"⟩, ⟨"xmlns:m", "http://apache.org/dav/xmlns"⟩] ++
    if r.toList.any (·.tagged) then [⟨"xmlns:C", "svn:"⟩] else []

/-- The document of a report, as a reader of flat documents sees it. -/
def flatDocument (r : ErrorReport) : Document where
  name := "D:error"
  attributes := r.namespaces
  elements := r.toList.flatMap ReportNode.flatElements

end ErrorReport

/-! ## The text of a document -/

namespace ReportNode

theorem text_readable_ne (n : ReportNode) : n.readable.text ≠ "" := by
  simp [readable, ← String.toList_inj]

/-- The elements of a node are written as such. -/
theorem toList_elements (n : ReportNode) :
    n.elements.toList = (n.flatElements.flatMap Element.tags).flatMap Tag.written := by
  have hmarker : ("<C:" ++ conditionName ++ "/>\n").toList = marker.tags.flatMap Tag.written := by
    simp [conditionName, marker, Element.tags, Start.written, closing, Tag.written, Tag.piece]
  have hreadable : ("<m:human-readable errcode=\"" ++ Decimal.intText n.id ++ "\">\n"
      ++ quoteText n.description ++ "\n</m:human-readable>\n").toList =
        n.readable.tags.flatMap Tag.written := by
    rw [Element.tags, if_neg n.text_readable_ne]
    simp [readable, Start.written, Attribute.written, closing, endTag, Tag.written, Tag.piece]
  unfold elements flatElements
  cases n.tagged with
  | false =>
    rw [if_neg Bool.false_ne_true, if_neg Bool.false_ne_true, List.nil_append,
      List.flatMap_singleton, ← hreadable]
    simp
  | true =>
    rw [if_pos rfl, if_pos rfl, List.singleton_append, List.flatMap_cons, List.flatMap_append,
      List.flatMap_singleton, ← hreadable, ← hmarker]
    simp

/-- The description of a node is seen as one element. -/
theorem readable_plain (n : ReportNode) : n.readable.Plain := by
  have hname : "m:human-readable" ≠ "" ∧ "m:human-readable".toList.all isNameChar = true := by
    decide
  have hkey : "errcode".toList.all isNameChar = true := by decide
  refine ⟨⟨hname.1, hname.2, ?_⟩, ?_⟩
  · rw [show n.readable.attributes = [⟨"errcode", Decimal.intText n.id⟩] from rfl,
      List.forall_mem_singleton]
    refine ⟨hkey, List.all_eq_true.2 fun c hc => ?_⟩
    rcases Decimal.eq_or_isDigit_of_mem_intText hc with rfl | hdigit
    · decide
    · -- neither quotes nor angle brackets are digits
      have hne : ∀ x : Char, x.isDigit = false → c ≠ x := by
        rintro x hx rfl
        rw [hx] at hdigit
        cases hdigit
      simp [isValueChar, hne]
  · simp [readable, toList_quoteText, lt_not_mem_escape]

/-- The elements of a node are seen as such. -/
theorem plain_of_mem_flatElements {n : ReportNode} {e : Element} (he : e ∈ n.flatElements) :
    e.Plain := by
  rw [flatElements, List.mem_append, List.mem_singleton] at he
  rcases he with hmarker | rfl
  · split at hmarker
    · rw [List.mem_singleton.1 hmarker]
      decide
    · cases hmarker
  · exact n.readable_plain

end ReportNode

namespace ErrorReport

/-- The start of a document is its declaration and the start tag of its root. -/
theorem toList_documentStart (r : ErrorReport) :
    r.documentStart.toList =
      Tag.written ⟨Document.declaration.toList, ['\n']⟩ ++
        Tag.written ⟨r.flatDocument.written false, ['\n']⟩ := by
  have hfixed : "<?xml version=\"1.0\" encoding=\"utf-8\"?>\n<D:error xmlns:D=\"DAV:\"".toList
      ++ " xmlns:m=\"http://apache.org/dav/xmlns\"".toList =
        Tag.written ⟨Document.declaration.toList, ['\n']⟩ ++ '<' :: ("D:error".toList ++
          [⟨"xmlns:D", "DAV:"⟩, ⟨"xmlns:m", "http://apache.org/dav/xmlns"⟩].flatMap
            Attribute.written) := by
    simp [Document.declaration, Tag.written, Tag.piece, Attribute.written]
  have hcondition : ∀ tagged : Bool,
      (if tagged then " xmlns:C=\"" ++ ReportNode.conditionNamespace ++ "\"" else "").toList =
        (if tagged then [(⟨"xmlns:C", "svn:"⟩ : Attribute)] else []).flatMap Attribute.written := by
    rintro (_ | _)
    · simp
    · simp [ReportNode.conditionNamespace, Attribute.written]
  have hwritten : r.flatDocument.written false =
      "D:error".toList ++ (r.namespaces.flatMap Attribute.written ++ []) := rfl
  unfold documentStart
  simp only [String.toList_append, hcondition]
  rw [hfixed, hwritten, namespaces, List.flatMap_append]
  simp [Tag.written, Tag.piece]

/-- The document of a report is written as a flat document. -/
theorem toList_document (r : ErrorReport) : r.document.toList = r.flatDocument.text := by
  have helements : (String.join (r.toList.map ReportNode.elements)).toList =
      (r.flatDocument.elements.flatMap Element.tags).flatMap Tag.written := by
    simp only [String.toList_join, List.flatMap_map, flatDocument, List.flatMap_assoc,
      ReportNode.toList_elements]
  have hend : "</D:error>\n".toList = (endTag "D:error").written := by
    simp [endTag, Tag.written, Tag.piece]
  rw [document, String.toList_append, String.toList_append, toList_documentStart, helements, hend,
    Document.text, Document.tags, List.flatMap_cons, List.flatMap_cons, List.flatMap_append,
    List.flatMap_singleton]
  simp only [List.append_assoc]
  rfl

/-- Every element of a document is seen as one. -/
theorem flatDocument_plain (r : ErrorReport) : r.flatDocument.Plain := by
  constructor
  · have hname : "D:error" ≠ "" ∧ "D:error".toList.all isNameChar = true := by decide
    refine ⟨hname.1, hname.2, ?_⟩
    show ∀ a ∈ r.namespaces, a.Plain
    unfold namespaces
    cases r.toList.any (·.tagged) <;> decide
  · intro e he
    obtain ⟨n, -, he⟩ := List.mem_flatMap.1 he
    exact ReportNode.plain_of_mem_flatElements he

/-- A reader of flat documents finds the elements of all nodes, and no others. -/
theorem read?_document (r : ErrorReport) :
    Document.read? r.document.toList = some r.flatDocument := by
  rw [toList_document, Document.read?_text r.flatDocument_plain]

/-- The descriptions in a document are those of its nodes, in their order. -/
theorem filter_readable (r : ErrorReport) :
    r.flatDocument.elements.filter (fun e => e.name = "m:human-readable") =
      r.toList.map ReportNode.readable := by
  have hnode : ∀ n : ReportNode,
      n.flatElements.filter (fun e => e.name = "m:human-readable") = [n.readable] := by
    intro n
    unfold ReportNode.flatElements
    cases n.tagged <;> simp [ReportNode.marker, ReportNode.readable]
  rw [flatDocument, List.filter_flatMap]
  simp only [hnode]
  exact List.map_eq_flatMap.symm

end ErrorReport

/-! ## Reading nodes -/

namespace ReportEntry

/-- Reads a text that stands on lines of its own. -/
def ownLines? : List Char → Option (List Char)
  | '\n' :: rest => if rest.getLast? = some '\n' then some rest.dropLast else none
  | _ => none

/-- Reads the description of a node, which may be tagged. -/
def read? (tagged : Bool) (e : Element) : Option ReportEntry :=
  match e.attributes with
  | [a] =>
    if e.name = "m:human-readable" ∧ a.name = "errcode" then do
      let id ← Decimal.signed? a.value.toList
      let description ← ownLines? e.text.toList
      some ⟨tagged, id, String.ofList (unescape description)⟩
    else none
  | _ => none

/-- Reads the elements of nodes.  A marker belongs to the element right behind it; `marked` says
that one was read. -/
def readAll? (marked : Bool) : List Element → Option (List ReportEntry)
  | [] => if marked then none else some []
  | e :: rest =>
    if e = ReportNode.marker then
      if marked then none else readAll? true rest
    else do
      let first ← read? marked e
      let others ← readAll? false rest
      some (first :: others)

/-- Reads the nodes of a report from its document. -/
def readDocument? (text : String) : Option (List ReportEntry) := do
  let d ← Document.read? text.toList
  if d.name = "D:error" then readAll? false d.elements else none

/-- The description of a node is read back. -/
theorem read?_readable (tagged : Bool) (n : ReportNode) :
    read? tagged n.readable = some ⟨tagged, n.id, n.description⟩ := by
  have htext : n.readable.text.toList = '\n' :: (escape n.description.toList ++ ['\n']) := by
    simp [ReportNode.readable, toList_quoteText]
  have hlines : ownLines? n.readable.text.toList = some (escape n.description.toList) := by
    rw [htext, ownLines?, if_pos (by simp), List.dropLast_concat]
  unfold read?
  rw [hlines]
  simp [ReportNode.readable, Decimal.signed?_intText, unescape_escape]

/-- The elements of a node are read back in front of any others. -/
theorem readAll?_flatElements_append (n : ReportNode) (more : List Element) :
    readAll? false (n.flatElements ++ more) =
      (readAll? false more).map fun others => n.entry :: others := by
  have hne : n.readable ≠ ReportNode.marker := by
    intro h
    have hname : "m:human-readable" = "C:error" := congrArg (·.name) h
    exact absurd hname (by decide)
  have hreadable : ∀ marked : Bool, readAll? marked (n.readable :: more) =
      (readAll? false more).map fun others => ⟨marked, n.id, n.description⟩ :: others := by
    intro marked
    rw [readAll?, if_neg hne, read?_readable]
    cases readAll? false more <;> rfl
  unfold ReportNode.flatElements ReportNode.entry
  cases n.tagged with
  | false => exact hreadable false
  | true =>
    -- the marker is what makes the element behind it that of a tagged node
    rw [if_pos rfl, List.singleton_append, List.cons_append, readAll?, if_pos rfl,
      if_neg Bool.false_ne_true]
    exact hreadable true

/-- The nodes of a report are read back, in their order. -/
theorem readAll?_flatMap (nodes : List ReportNode) :
    readAll? false (nodes.flatMap ReportNode.flatElements) = some (nodes.map ReportNode.entry) := by
  induction nodes with
  | nil => rfl
  | cons n nodes ih =>
    rw [List.flatMap_cons, readAll?_flatElements_append, ih]
    rfl

end ReportEntry

namespace ErrorReport

/-- The document of a report depends on what it tells of the nodes only. -/
theorem document_eq_of_entries_eq {r s : ErrorReport}
    (h : r.toList.map ReportNode.entry = s.toList.map ReportNode.entry) :
    r.document = s.document := by
  have helements : ∀ q : ErrorReport, q.toList.map ReportNode.elements =
      (q.toList.map ReportNode.entry).map fun a =>
        ReportNode.elements ⟨.internalError, a.id, a.description, a.tagged⟩ := by
    intro q
    rw [List.map_map]
    rfl
  have htagged : ∀ q : ErrorReport, q.toList.any (·.tagged) =
      (q.toList.map ReportNode.entry).any (·.tagged) := by
    intro q
    rw [List.any_map]
    rfl
  unfold document documentStart
  simp only [helements, htagged, h]

/-- The prefix of the markers is declared if some node is tagged. -/
theorem exists_condition_mem_namespaces_iff (r : ErrorReport) :
    (∃ a ∈ r.namespaces, a.name = "xmlns:C") ↔ ∃ n ∈ r.toList, n.tagged = true := by
  rw [← List.any_eq_true, namespaces]
  cases r.toList.any (·.tagged) <;> simp

/-- **Documents are read back.**  The document of a report holds, for each node, its marker if it
is tagged and its description, one right behind the other, and nothing else; from these the nodes
are read back, but for their status.  The prefix of the markers is declared exactly if there is
one.  So two reports have the same document only if they tell the same of their nodes. -/
theorem document_decodes :
    (∀ r : ErrorReport,
      ReportEntry.readDocument? r.document = some (r.toList.map ReportNode.entry) ∧
      ∃ d : Document, Document.read? r.document.toList = some d ∧
        d.elements = r.toList.flatMap (fun n =>
          (if n.tagged then [ReportNode.marker] else []) ++ [n.readable]) ∧
        ((∃ a ∈ d.attributes, a.name = "xmlns:C") ↔ ∃ n ∈ r.toList, n.tagged = true)) ∧
    ∀ r s : ErrorReport, r.document = s.document ↔
      r.toList.map ReportNode.entry = s.toList.map ReportNode.entry := by
  have hread : ∀ r : ErrorReport,
      ReportEntry.readDocument? r.document = some (r.toList.map ReportNode.entry) := by
    intro r
    rw [ReportEntry.readDocument?, read?_document]
    exact ReportEntry.readAll?_flatMap r.toList
  constructor
  · intro r
    exact ⟨hread r, r.flatDocument, read?_document r, rfl, exists_condition_mem_namespaces_iff r⟩
  · intro r s
    refine ⟨fun h => ?_, document_eq_of_entries_eq⟩
    exact Option.some.inj ((hread r).symm.trans ((congrArg _ h).trans (hread s)))

end ErrorReport

end DavGateway
