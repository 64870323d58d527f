/-
# Flat documents

A flat document has a declaration and a root element, and the elements in the
root hold text only.  It is read in three passes: the text is cut into tags,
what stands in a tag is cut into a name and attributes, and each end tag is
matched with the start tag before it.  A reader that knows nothing of what a
document is about finds its elements again, provided that no tag begins in
their texts.

* `tags?_written` : tags are found again.
* `Start.read?_written` : so are names and attributes.
* `Document.read?_text` : so is the document.
-/
import DavGateway.Text.Cut

namespace DavGateway.Markup

/-! ## Tags -/

/-- A tag: what stands between its angle brackets, and the text behind it, up to the next tag. -/
structure Tag where
  inside : List Char
  behind : List Char
  deriving DecidableEq, Repr

namespace Tag

/-- What follows the opening angle bracket of a tag. -/
def piece (t : Tag) : List Char := t.inside ++ '>' :: t.behind

/-- A tag as it stands in a text. -/
def written (t : Tag) : List Char := '<' :: t.piece

/-- Reads what follows an opening angle bracket. -/
def read? (piece : List Char) : Option Tag :=
  (Cut.atFirst? '>' piece).map fun parts => ⟨parts.1, parts.2⟩

/-- A tag that is seen as one: no other begins in it, and it ends only once. -/
structure Plain (t : Tag) : Prop where
  lt_not_mem_inside : '<' ∉ t.inside
  gt_not_mem_inside : '>' ∉ t.inside
  lt_not_mem_behind : '<' ∉ t.behind

theorem Plain.lt_not_mem_piece {t : Tag} (h : t.Plain) : '<' ∉ t.piece := by
  simp [piece, h.lt_not_mem_inside, h.lt_not_mem_behind]

theorem Plain.read?_piece {t : Tag} (h : t.Plain) : read? t.piece = some t := by
  rw [read?, piece, Cut.atFirst?_append h.gt_not_mem_inside]
  rfl

end Tag

/-- The tags of a text that begins with one and ends each that it begins. -/
def tags? (text : List Char) : Option (List Tag) :=
  match text.splitOn '<' with
  | [] :: pieces => pieces.mapM Tag.read?
  | _ => none

/-- The pieces that tags begin are read one by one. -/
theorem mapM_read?_piece {ts : List Tag} (h : ∀ t ∈ ts, t.Plain) :
    (ts.map Tag.piece).mapM Tag.read? = some ts := by
  induction ts with
  | nil => rfl
  | cons t ts ih =>
    rw [List.forall_mem_cons] at h
    rw [List.map_cons, List.mapM_cons, h.1.read?_piece, ih h.2]
    rfl

/-- Tags are found again in what was written. -/
theorem tags?_written {ts : List Tag} (h : ∀ t ∈ ts, t.Plain) :
    tags? (ts.flatMap Tag.written) = some ts := by
  have hsplit : (ts.flatMap Tag.written).splitOn '<' = [] :: ts.map Tag.piece := by
    rw [← Cut.splitOn_flatMap_cons, List.flatMap_map]
    · rfl
    · rw [List.forall_mem_map]
      exact fun t ht => (h t ht).lt_not_mem_piece
  rw [tags?, hsplit]
  exact mapM_read?_piece h

/-! ## Names and attributes -/

/-- A character that a name is made of. -/
def isNameChar (c : Char) : Bool := c.isAlphanum || c = ':' || c = '-'

/-- A character that stands as it is between double quotes in a tag. -/
def isValueChar (c : Char) : Bool := c ≠ '"' && c ≠ '<' && c ≠ '>'

/-- What is not among the characters of a text does not stand in it. -/
theorem not_mem_of_all {p : Char → Bool} {s : List Char} (h : s.all p = true) {c : Char}
    (hc : p c = false) : c ∉ s := by
  intro hmem
  rw [List.all_eq_true.1 h c hmem] at hc
  cases hc

/-- An attribute of an element. -/
structure Attribute where
  name : String
  value : String
  deriving DecidableEq, Repr

namespace Attribute

/-- An attribute behind the blank that sets it off. -/
def written (a : Attribute) : List Char :=
  ' ' :: (a.name.toList ++ '=' :: '"' :: (a.value.toList ++ ['"']))

/-- An attribute that is seen as one. -/
def Plain (a : Attribute) : Prop :=
  a.name.toList.all isNameChar = true ∧ a.value.toList.all isValueChar = true

instance (a : Attribute) : Decidable a.Plain := inferInstanceAs (Decidable (_ ∧ _))

/-- Reads what stands before the value of an attribute. -/
def name? : List Char → Option String
  | ' ' :: key =>
    match Cut.atFirst? '=' key with
    | some (name, []) => some (String.ofList name)
    | _ => none
  | _ => none

theorem Plain.name?_eq {a : Attribute} (h : a.Plain) :
    name? (' ' :: (a.name.toList ++ ['='])) = some a.name := by
  have hcut : Cut.atFirst? '=' (a.name.toList ++ ['=']) = some (a.name.toList, []) :=
    Cut.atFirst?_append (not_mem_of_all h.1 (by decide)) []
  rw [name?, hcut]
  exact congrArg some String.ofList_toList

end Attribute

/-- Reads attributes that were cut at their quotes, and whether a slash follows them. -/
def attributes? : List (List Char) → Option (List Attribute × Bool)
  | [[]] => some ([], false)
  | [['/']] => some ([], true)
  | key :: value :: rest => do
    let name ← Attribute.name? key
    let (others, closed) ← attributes? rest
    some (⟨name, String.ofList value⟩ :: others, closed)
  | _ => none

/-- The slash of a tag that is its own end tag. -/
def closing (closed : Bool) : List Char := if closed then ['/'] else []

/-- Attributes are found again, and the slash behind them. -/
theorem attributes?_written {as : List Attribute} (h : ∀ a ∈ as, a.Plain) (closed : Bool) :
    attributes? ((as.flatMap Attribute.written ++ closing closed).splitOn '"') =
      some (as, closed) := by
  induction as with
  | nil =>
    cases closed
    · rfl
    · decide
  | cons a as ih =>
    rw [List.forall_mem_cons] at h
    have hkey : '"' ∉ ' ' :: (a.name.toList ++ ['=']) := by
      simp [not_mem_of_all (c := '"') h.1.1 (by decide)]
    have hvalue : '"' ∉ a.value.toList := not_mem_of_all h.1.2 (by decide)
    have hwritten : (a :: as).flatMap Attribute.written ++ closing closed =
        ' ' :: (a.name.toList ++ ['=']) ++ '"' ::
          (a.value.toList ++ '"' :: (as.flatMap Attribute.written ++ closing closed)) := by
      simp [Attribute.written]
    rw [hwritten, List.splitOn_append_cons_self, List.splitOn_append_cons_self,
      List.splitOn_eq_singleton hkey, List.splitOn_eq_singleton hvalue, List.singleton_append,
      List.singleton_append, attributes?, h.1.name?_eq, ih h.2, String.ofList_toList]
    rfl

/-! ## Start tags -/

/-- What the start tag of an element says. -/
structure Start where
  name : String
  attributes : List Attribute := []
  deriving DecidableEq, Repr

namespace Start

/-- What stands in a start tag, which may be its own end tag. -/
def written (s : Start) (closed : Bool) : List Char :=
  s.name.toList ++ (s.attributes.flatMap Attribute.written ++ closing closed)

/-- A start tag that is seen as one. -/
def Plain (s : Start) : Prop :=
  s.name ≠ "" ∧ s.name.toList.all isNameChar = true ∧ ∀ a ∈ s.attributes, a.Plain

instance (s : Start) : Decidable s.Plain := inferInstanceAs (Decidable (_ ∧ _ ∧ _))

/-- Reads what stands in a start tag, and whether it is its own end tag. -/
def read? (inside : List Char) : Option (Start × Bool) :=
  let name := inside.takeWhile isNameChar
  if name = [] then none
  else (attributes? ((inside.dropWhile isNameChar).splitOn '"')).map fun (as, closed) =>
    (⟨String.ofList name, as⟩, closed)

/-- What follows a name in a start tag does not belong to the name. -/
theorem takeWhile_attributes (as : List Attribute) (closed : Bool) :
    (as.flatMap Attribute.written ++ closing closed).takeWhile isNameChar = [] := by
  cases as with
  | nil =>
    cases closed
    · rfl
    · decide
  | cons a as =>
    have hblank : isNameChar ' ' = false := by decide
    simp [Attribute.written, hblank]

/-- A start tag is read back. -/
theorem read?_written {s : Start} (h : s.Plain) (closed : Bool) :
    read? (s.written closed) = some (s, closed) := by
  obtain ⟨hne, hname, has⟩ := h
  have hall : ∀ c ∈ s.name.toList, isNameChar c = true := List.all_eq_true.1 hname
  have htake : (s.written closed).takeWhile isNameChar = s.name.toList := by
    rw [written, List.takeWhile_append_of_pos hall, takeWhile_attributes, List.append_nil]
  have hdrop : (s.written closed).dropWhile isNameChar =
      s.attributes.flatMap Attribute.written ++ closing closed := by
    have hsame := List.takeWhile_append_dropWhile (p := isNameChar) (l := s.written closed)
    rw [htake] at hsame
    exact List.append_cancel_left hsame
  rw [read?]
  dsimp only
  rw [htake, hdrop, if_neg (by simpa using hne), attributes?_written has, String.ofList_toList]
  rfl

/-- No angle bracket stands in a start tag. -/
theorem not_mem_written {s : Start} (h : s.Plain) (closed : Bool) {c : Char}
    (hc : c = '<' ∨ c = '>') : c ∉ s.written closed := by
  obtain ⟨-, hname, has⟩ := h
  have hplain : isNameChar c = false ∧ isValueChar c = false ∧ c ∉ closing closed ∧
      c ≠ ' ' ∧ c ≠ '=' ∧ c ≠ '"' := by
    rcases hc with rfl | rfl
    · cases closed <;> decide
    · cases closed <;> decide
  obtain ⟨hnotName, hnotValue, hclosing, hblank, hequals, hquote⟩ := hplain
  rw [written, List.mem_append, List.mem_append]
  rintro (hmem | hmem | hmem)
  · exact not_mem_of_all hname hnotName hmem
  · obtain ⟨a, ha, hmem⟩ := List.mem_flatMap.1 hmem
    have hkey := not_mem_of_all (has a ha).1 hnotName
    have hvalue := not_mem_of_all (has a ha).2 hnotValue
    simp [Attribute.written, hblank, hequals, hquote, hkey, hvalue] at hmem
  · exact hclosing hmem

end Start

/-- The end tag of an element, on a line of its own. -/
def endTag (name : String) : Tag := ⟨'/' :: name.toList, ['\n']⟩

theorem endTag_plain {name : String} (h : name.toList.all isNameChar = true) :
    (endTag name).Plain :=
  ⟨by simp [endTag, not_mem_of_all (c := '<') h (by decide)],
    by simp [endTag, not_mem_of_all (c := '>') h (by decide)], by simp [endTag]⟩

/-! ## Elements -/

/-- An element that holds no other, with its text as it stands. -/
structure Element extends Start where
  text : String := ""
  deriving DecidableEq, Repr

namespace Element

/-- The tags of an element.  Without text it is written as one tag. -/
def tags (e : Element) : List Tag :=
  if e.text = "" then [⟨e.written true, ['\n']⟩]
  else [⟨e.written false, e.text.toList⟩, endTag e.name]

/-- An element that is seen as one. -/
def Plain (e : Element) : Prop := e.toStart.Plain ∧ '<' ∉ e.text.toList

instance (e : Element) : Decidable e.Plain := inferInstanceAs (Decidable (_ ∧ _))

/-- The tags of an element are seen as such. -/
theorem Plain.tags {e : Element} (h : e.Plain) : ∀ t ∈ e.tags, t.Plain := by
  have hlt := fun closed => Start.not_mem_written h.1 closed (.inl rfl)
  have hgt := fun closed => Start.not_mem_written h.1 closed (.inr rfl)
  unfold Element.tags
  split
  · rw [List.forall_mem_singleton]
    exact ⟨hlt true, hgt true, by simp⟩
  · rw [List.forall_mem_cons, List.forall_mem_singleton]
    exact ⟨⟨hlt false, hgt false, h.2⟩, endTag_plain h.1.2.1⟩

end Element

/-- The elements that stand up to the end tag of the element that holds them, which is the last
tag.  Each ends its line. -/
def elements? (parent : String) : List Tag → Option (List Element)
  | [] => none
  | [t] => if t = endTag parent then some [] else none
  | t :: u :: rest => do
    let (start, closed) ← Start.read? t.inside
    if closed then
      if t.behind = ['\n'] then
        let others ← elements? parent (u :: rest)
        some ({ start with } :: others)
      else none
    else if u = endTag start.name then
      let others ← elements? parent rest
      some ({ start with text := String.ofList t.behind } :: others)
    else none

/-- Elements are found again in front of the end tag of the element that holds them. -/
theorem elements?_tags {es : List Element} (h : ∀ e ∈ es, e.Plain) (parent : String) :
    elements? parent (es.flatMap Element.tags ++ [endTag parent]) = some es := by
  induction es with
  | nil => simp [elements?]
  | cons e es ih =>
    rw [List.forall_mem_cons] at h
    have hrest := ih h.2
    rw [List.flatMap_cons, List.append_assoc, Element.tags]
    split
    · next htext =>
      -- something follows a tag that is its own end tag, be it the end tag of the parent
      obtain ⟨u, rest, hcons⟩ : ∃ u rest, es.flatMap Element.tags ++ [endTag parent] = u :: rest :=
        List.exists_cons_of_ne_nil (by simp)
      rw [hcons] at hrest ⊢
      rw [List.singleton_append, elements?, Start.read?_written h.1.1 true]
      simp [hrest, ← htext]
    · rw [List.cons_append, List.cons_append, List.nil_append, elements?,
        Start.read?_written h.1.1 false]
      simp [hrest]

/-! ## Documents -/

/-- A document of a root element that holds flat elements. -/
structure Document extends Start where
  elements : List Element
  deriving DecidableEq, Repr

namespace Document

/-- What stands in the tag that a document begins with. -/
def declaration : String := "?xml version=\"1.0\" encoding=\"utf-8\"?"

/-- The tags of a document. -/
def tags (d : Document) : List Tag :=
  ⟨declaration.toList, ['\n']⟩ :: ⟨d.written false, ['\n']⟩ ::
    (d.elements.flatMap Element.tags ++ [endTag d.name])

/-- The text of a document. -/
def text (d : Document) : List Char := d.tags.flatMap Tag.written

/-- Reads a document. -/
def read? (text : List Char) : Option Document :=
  match tags? text with
  | some (first :: root :: rest) => do
    let (start, closed) ← Start.read? root.inside
    if first = ⟨declaration.toList, ['\n']⟩ ∧ closed = false ∧ root.behind = ['\n'] then
      let elements ← elements? start.name rest
      some { start with elements := elements }
    else none
  | _ => none

/-- A document that is seen as one. -/
def Plain (d : Document) : Prop := d.toStart.Plain ∧ ∀ e ∈ d.elements, e.Plain

/-- The tags of a document are seen as such. -/
theorem Plain.tags {d : Document} (h : d.Plain) : ∀ t ∈ d.tags, t.Plain := by
  have hdeclaration : (⟨declaration.toList, ['\n']⟩ : Tag).Plain :=
    ⟨by decide, by decide, by decide⟩
  have hroot : (⟨d.written false, ['\n']⟩ : Tag).Plain :=
    ⟨Start.not_mem_written h.1 false (.inl rfl), Start.not_mem_written h.1 false (.inr rfl),
      by simp⟩
  have helements : ∀ t ∈ d.elements.flatMap Element.tags, t.Plain := by
    intro t ht
    obtain ⟨e, he, ht⟩ := List.mem_flatMap.1 ht
    exact (h.2 e he).tags t ht
  unfold Document.tags
  rw [List.forall_mem_cons, List.forall_mem_cons, List.forall_mem_append, List.forall_mem_singleton]
  exact ⟨hdeclaration, hroot, helements, endTag_plain h.1.2.1⟩

/-- A document is read back. -/
theorem read?_text {d : Document} (h : d.Plain) : read? d.text = some d := by
  rw [read?, text, tags?_written h.tags, tags]
  dsimp only
  rw [Start.read?_written h.1 false]
  simp [elements?_tags h.2]

end Document

end DavGateway.Markup
