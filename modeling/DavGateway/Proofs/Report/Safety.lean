/-
# When error documents are safe

A document with a control character in it, other than tab, line feed and
carriage return, is refused by native clients as a whole.  Descriptions are
escaped as markup only, and no character is taken out of them.  So an error
document is safe just if the texts in it are: those of the storage, of the
connection and of the client, whose refused paths are shown back to it.

* `ErrorReport.isSafe_document` : a document is as safe as its descriptions.
* `ErrorReport.MadeOf` : the ways to a report, and the texts that are put into it.
* `ErrorReport.document_safe_iff` : a document is as safe as those texts.
* `Path.refusal_not_safe` : a refused path that makes a document unsafe.
-/
import DavGateway.Fault
import DavGateway.Proofs.Markup.Author
import DavGateway.Proofs.Report.Redaction
import DavGateway.Report.Canonical

namespace DavGateway

/-! ## Safe texts -/

namespace Markup

/-- A text that is written out is safe by its characters. -/
theorem isSafe_ofList (cs : List Char) : isSafe (String.ofList cs) = cs.all isAllowed := by
  rw [isSafe_eq_all, String.toList_ofList]

theorem isSafe_append (s t : String) : isSafe (s ++ t) = (isSafe s && isSafe t) := by
  rw [isSafe_eq_all, isSafe_eq_all, isSafe_eq_all, String.toList_append, List.all_append]

theorem isSafe_append_of {s t : String} (hs : isSafe s = true) (ht : isSafe t = true) :
    isSafe (s ++ t) = true := by
  rw [isSafe_append, hs, ht, Bool.and_self]

theorem isSafe_join (texts : List String) : isSafe (String.join texts) = texts.all isSafe := by
  rw [isSafe_eq_all, String.toList_join, List.all_flatMap]
  simp only [← isSafe_eq_all]

theorem all_isSafe_singleton (text : String) : [text].all isSafe = isSafe text := Bool.and_true _

/-- An escaped character is allowed if the character is. -/
theorem all_isAllowed_escapeChar (c : Char) : (escapeChar c).all isAllowed = isAllowed c := by
  by_cases hlt : c = '<'
  · subst c; decide
  by_cases hgt : c = '>'
  · subst c; decide
  by_cases hamp : c = '&'
  · subst c; decide
  · rw [escapeChar_of_ne hlt hgt hamp, List.all_cons, List.all_nil, Bool.and_true]

/-- Escaping makes no text safe, and none unsafe. -/
theorem isSafe_quoteText (text : String) : isSafe (quoteText text) = isSafe text := by
  rw [isSafe_eq_all, isSafe_eq_all, toList_quoteText, escape, List.all_flatMap]
  simp only [all_isAllowed_escapeChar]

/-- Numbers are safe. -/
theorem isSafe_intText (n : Int) : isSafe (Decimal.intText n) = true := by
  rw [isSafe_eq_true_iff]
  intro c hc
  rcases Decimal.eq_or_isDigit_of_mem_intText hc with rfl | hdigit
  · decide
  · have hzero : '0'.toNat = 48 := rfl
    have hnine : '9'.toNat = 57 := rfl
    rw [Char.isDigit_iff_toNat, hzero, hnine] at hdigit
    exact isAllowed_iff.2 (.inl ⟨by omega, by omega⟩)

end Markup

open Markup

/-! ## Safe documents -/

/-- The elements of a node are as safe as its description. -/
theorem ReportNode.isSafe_elements (n : ReportNode) :
    isSafe n.elements = isSafe n.description := by
  have hmarker : isSafe (if n.tagged then "<C:" ++ conditionName ++ "/>\n" else "") = true := by
    cases n.tagged <;> decide
  have hopen : isSafe "<m:human-readable errcode=\"" = true := (isSafe_ofList _).trans rfl
  have hline : isSafe "\">\n" = true := (isSafe_ofList _).trans rfl
  have hclose : isSafe "\n</m:human-readable>\n" = true := (isSafe_ofList _).trans rfl
  simp only [elements, isSafe_append, hmarker, hopen, hline, hclose, isSafe_intText,
    isSafe_quoteText, Bool.true_and, Bool.and_true]

namespace ErrorReport

/-- The start of a document is safe, with the namespace of the condition element or without it. -/
theorem isSafe_documentStart (r : ErrorReport) : isSafe r.documentStart = true := by
  have hxml :
      isSafe "<?xml version=\"1.0\" encoding=\"utf-8\"?>\n<D:error xmlns:D=\"DAV:\"" = true :=
    (isSafe_ofList _).trans rfl
  have hreadable : isSafe " xmlns:m=\"http://apache.org/dav/xmlns\"" = true :=
    (isSafe_ofList _).trans rfl
  have hcondition : isSafe (if r.toList.any (·.tagged) then
      " xmlns:C=\"" ++ ReportNode.conditionNamespace ++ "\"" else "") = true := by
    cases r.toList.any (·.tagged) <;> decide
  have hline : isSafe ">\n" = true := (isSafe_ofList _).trans rfl
  exact isSafe_append_of (isSafe_append_of (isSafe_append_of hxml hreadable) hcondition) hline

/-- A document is as safe as its descriptions. -/
theorem isSafe_document (r : ErrorReport) :
    isSafe r.document = r.toList.all fun n => isSafe n.description := by
  have hend : isSafe "</D:error>\n" = true := (isSafe_ofList _).trans rfl
  rw [document, isSafe_append, isSafe_append, isSafe_documentStart, hend, isSafe_join,
    List.all_map, Bool.true_and, Bool.and_true]
  simp only [Function.comp_def, ReportNode.isSafe_elements]

/-- The document of one node is as safe as its description. -/
theorem isSafe_document_single (n : ReportNode) :
    isSafe (document (.single n)) = isSafe n.description := by
  rw [isSafe_document, Chain.toList_single, List.all_cons, List.all_nil, Bool.and_true]

end ErrorReport

/-! ## Refused paths -/

/-- A refused path is shown as it is. -/
theorem Path.isSafe_refusal (path : String) : isSafe (refusal path).document = isSafe path := by
  have hfront : isSafe "Path '" = true := (isSafe_ofList _).trans rfl
  have hback : isSafe "' is not canonicalized; there is a problem with the client." = true :=
    (isSafe_ofList _).trans rfl
  rw [refusal, ErrorReport.isSafe_document_single]
  simp only [ReportNode.condition, isSafe_append, hfront, hback, Bool.true_and, Bool.and_true]

theorem Path.eq_refusal_of_checkCanonical {path : String} {r : ErrorReport}
    (h : checkCanonical path = .error r) : r = refusal path := by
  unfold checkCanonical at h
  split at h
  · cases h
  · exact (Except.error.inj h).symm

/-! ## Storage errors -/

/-- The default texts are safe. -/
theorem FailureKind.isSafe_defaultText (k : FailureKind) : isSafe k.defaultText = true := by
  cases k <;> exact (isSafe_ofList _).trans rfl

/-- The text of a link is as safe as its message, if it has one. -/
theorem Link.isSafe_text (l : Link) : isSafe l.text = l.message.all isSafe := by
  obtain ⟨kind, _ | text⟩ := l
  · exact kind.isSafe_defaultText
  · rfl

namespace StorageError

/-- The texts from outside that the report of an error shows: the summary, if it stands in front,
and the messages of the reported links. -/
def shownTexts (e : StorageError) (summary : Option String) : List String :=
  (if e.hasCause .hookFailure then [] else summary.toList) ++ e.reportedLinks.filterMap (·.message)

/-- The messages of the reported links are as safe as their texts. -/
theorem all_isSafe_shownTexts (e : StorageError) (summary : Option String) :
    (e.shownTexts summary).all isSafe =
      ((if e.hasCause .hookFailure then true else summary.all isSafe) &&
        e.reportedLinks.all fun l => isSafe l.text) := by
  rw [shownTexts, List.all_append, List.all_filterMap]
  congr 1
  · cases e.hasCause .hookFailure <;> cases summary <;> simp
  · congr 1
    funext l
    rw [l.isSafe_text]
    cases l.message <;> rfl

/-- The report of an error is as safe as the texts that it shows. -/
theorem isSafe_report (e : StorageError) (fallback : Status) (summary : Option String) :
    isSafe (e.report fallback summary).document = (e.shownTexts summary).all isSafe := by
  rw [ErrorReport.isSafe_document, toList_report, List.all_append, List.all_map,
    all_isSafe_shownTexts, toList_purge_eq]
  congr 1
  cases e.hasCause .hookFailure <;> cases summary <;> simp [Link.summary]

/-- An error that is hidden behind a text shows nothing else. -/
theorem isSafe_sanitize_of_isHiddenBehind {e : StorageError} {text : String}
    (h : e.IsHiddenBehind text) (fallback : Status) :
    isSafe (e.sanitize text fallback).1.document = isSafe text := by
  obtain ⟨⟨t, htext, hne⟩, hhook⟩ := h
  cases htext
  rw [report_sanitize hne (hasCause_eq_false_iff.2 hhook), ErrorReport.isSafe_document,
    Bool.eq_iff_iff, List.all_eq_true]
  constructor
  · intro hall
    have houtermost := hall _ List.mem_cons_self
    rwa [description_eq_of_mem_report List.mem_cons_self] at houtermost
  · intro hsafe n hn
    rwa [description_eq_of_mem_report hn]

/-- An error that is not hidden shows its messages; its own text in front of them adds nothing. -/
theorem isSafe_sanitize_of_not_isHiddenBehind {e : StorageError} {text : Option String}
    (h : ¬ e.IsHiddenBehind text) (fallback : Status) :
    isSafe (e.sanitize text fallback).1.document = (e.shownTexts none).all isSafe := by
  rw [sanitize_of_replacement?_eq_none (replacement?_of_not_isHiddenBehind h), isSafe_report,
    all_isSafe_shownTexts, all_isSafe_shownTexts, reportedLinks_eq_cons, List.all_cons]
  -- the text in front is that of the first reported link
  show ((if e.hasCause .hookFailure then true else isSafe e.purge.outermost.text) && _) = _
  cases e.hasCause .hookFailure <;> cases isSafe e.purge.outermost.text <;> simp [Option.all]

end StorageError

/-! ## Faults -/

/-- The texts from outside that the report of a fault shows. -/
def Fault.shownTexts : Fault → List String
  | malformedUri reason | unsupportedFeature reason | entityTooLarge reason | badRequest reason =>
    [reason]
  | connectionAborted => []
  | io failure => [failure]
  | storage error => error.shownTexts none

/-- An error of one link shows the message of that link. -/
theorem StorageError.shownTexts_single (kind : FailureKind) (text : String) :
    shownTexts (.single ⟨kind, text⟩) none = [text] := by
  rw [shownTexts, ← toList_purge_eq, purge_single, Option.toList_none, ite_self]
  rfl

/-- The report of a fault is as safe as the texts that it shows. -/
theorem Fault.isSafe_report (f : Fault) (fallback : Status) :
    isSafe (f.report fallback).document = f.shownTexts.all isSafe := by
  cases f with
  | malformedUri reason =>
    rw [report, StorageError.isSafe_report, StorageError.shownTexts_single, shownTexts]
  | unsupportedFeature reason =>
    rw [report, StorageError.isSafe_report, StorageError.shownTexts_single, shownTexts]
  | entityTooLarge reason =>
    rw [shownTexts, all_isSafe_singleton]
    exact ErrorReport.isSafe_document_single _
  | badRequest reason =>
    rw [shownTexts, all_isSafe_singleton]
    exact ErrorReport.isSafe_document_single _
  | connectionAborted =>
    -- the text is that of the kind
    rw [report, ErrorReport.isSafe_document_single]
    exact FailureKind.isSafe_defaultText _
  | io failure =>
    rw [shownTexts, all_isSafe_singleton]
    exact ErrorReport.isSafe_document_single _
  | storage error => exact error.isSafe_report fallback none

/-! ## All reports -/

namespace ErrorReport

/-- The ways to a report, with the texts from outside that are put into it. -/
inductive MadeOf : List String → ErrorReport → Prop
  | plain (status : Status) (id : Int) (text : String) :
    MadeOf [text] (.single (.plain status id text))
  | condition (status : Status) (id : Int) (text : String) :
    MadeOf [text] (.single (.condition status id text))
  /-- Another node in front of a report. -/
  | push {texts : List String} {r : ErrorReport} (h : MadeOf texts r) (status : Status) (id : Int)
    (text : String) : MadeOf (text :: texts) (r.push (.plain status id text))
  /-- The refusal of a path that is not canonical. -/
  | refused {path : String} {r : ErrorReport} (h : Path.checkCanonical path = .error r) :
    MadeOf [path] r
  | storage (e : StorageError) (fallback : Status) (summary : Option String) :
    MadeOf (e.shownTexts summary) (e.report fallback summary)
  /-- A storage error behind a replacement text. -/
  | hidden {e : StorageError} {text : String} (h : e.IsHiddenBehind text) (fallback : Status) :
    MadeOf [text] (e.sanitize text fallback).1
  /-- A storage error that is not replaced. -/
  | kept {e : StorageError} {text : Option String} (h : ¬ e.IsHiddenBehind text)
    (fallback : Status) : MadeOf (e.shownTexts none) (e.sanitize text fallback).1
  | fault (f : Fault) (fallback : Status) : MadeOf f.shownTexts (f.report fallback)

/-- Whichever way a report is made, its document is as safe as the texts put into it. -/
theorem MadeOf.isSafe_document {texts : List String} {r : ErrorReport} (h : MadeOf texts r) :
    isSafe r.document = texts.all isSafe := by
  induction h with
  | plain status id text =>
    rw [all_isSafe_singleton]
    exact isSafe_document_single _
  | condition status id text =>
    rw [all_isSafe_singleton]
    exact isSafe_document_single _
  | push h status id text ih =>
    rw [ErrorReport.isSafe_document] at ih ⊢
    rw [Chain.toList_push, List.all_cons, ih, List.all_cons]
    rfl
  | refused h =>
    rw [Path.eq_refusal_of_checkCanonical h, Path.isSafe_refusal, all_isSafe_singleton]
  | storage e fallback summary => exact e.isSafe_report fallback summary
  | hidden h fallback =>
    rw [StorageError.isSafe_sanitize_of_isHiddenBehind h fallback, all_isSafe_singleton]
  | kept h fallback => exact StorageError.isSafe_sanitize_of_not_isHiddenBehind h fallback
  | fault f fallback => exact f.isSafe_report fallback

/-- **An error document is as safe as the texts put into it.**  However a report was made, its
document has no control character other than tabs, line feeds and carriage returns just if none of
the texts from outside that it shows has one. -/
theorem document_safe_iff {texts : List String} {r : ErrorReport} (h : MadeOf texts r) :
    (isSafe r.document = true ↔ ∀ c ∈ r.document.toList,
      c.toNat < 0x20 ∨ c.toNat = 0x7f → c ∈ ['\t', '\n', '\r']) ∧
      (isSafe r.document = true ↔ ∀ text ∈ texts, isSafe text = true) :=
  ⟨isSafe_iff_controls, by rw [h.isSafe_document, List.all_eq_true]⟩

/-- A storage error whose message shows a name with a control character, behind a replacement text
and as it is. -/
theorem document_safe_iff_missing_item :
    let e : StorageError := .single ⟨.notFound, "File not found: path '/a\x01'"⟩
    e.IsHiddenBehind "Could not read" ∧
      isSafe (e.sanitize "Could not read" .internalError).1.document = true ∧
      isSafe (e.report .internalError none).document = false := by
  intro e
  have hhidden : e.IsHiddenBehind "Could not read" := ⟨⟨_, rfl, by decide⟩, by simp [e]⟩
  have hshown : e.shownTexts none = ["File not found: path '/a\x01'"] :=
    StorageError.shownTexts_single _ _
  refine ⟨hhidden, ?_, ?_⟩
  · rw [(document_safe_iff (.hidden hhidden .internalError)).2, List.forall_mem_singleton]
    decide
  · rw [← Bool.not_eq_true, (document_safe_iff (.storage e .internalError none)).2, hshown,
      List.forall_mem_singleton]
    decide

end ErrorReport

/-- A path is refused for its last slash, and a control character of it is shown to the client. -/
theorem Path.refusal_not_safe :
    checkCanonical "/a\x01/" = .error (refusal "/a\x01/") ∧
      ErrorReport.MadeOf ["/a\x01/"] (refusal "/a\x01/") ∧
      isSafe (refusal "/a\x01/").document = false := by
  have hrefused : checkCanonical "/a\x01/" = .error (refusal "/a\x01/") := by
    have hform : isCanonical "/a\x01/".toList = false := by decide
    rw [checkCanonical, hform]
    rfl
  refine ⟨hrefused, .refused hrefused, ?_⟩
  rw [isSafe_refusal]
  decide

end DavGateway
