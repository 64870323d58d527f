/-
# What a client is shown of an error

Hook failures are shown as they are, whichever way the error takes to the
client.  Any other error is hidden completely behind a replacement text: what the
client gets depends on the kind of the first reported link, and on nothing else
of the error.  What the client is not shown then is kept for the operator.

* `StorageError.hook_failure_shown` : a hook failure is never hidden.
* `StorageError.sanitize_hides` : everything else can be.
* `StorageError.sanitize_keeps_diagnosis` : the events have what the client has not.
-/
import DavGateway.Fault
import DavGateway.Proofs.Report.Decoding
import DavGateway.Proofs.Report.Links

namespace DavGateway.StorageError

open Markup

/-! ## Replacing an error or not -/

/-- A text replaces an error if it is not empty and no hook failed. -/
theorem replacement?_eq_some_iff {e : StorageError} {text : Option String} {t : String} :
    e.replacement? text = some t ↔ text = some t ∧ t ≠ "" ∧ e.hasCause .hookFailure = false := by
  simp [replacement?, Option.filter_eq_some_iff]

/-- Trace links do not matter to that. -/
theorem replacement?_purge (e : StorageError) (text : Option String) :
    e.purge.replacement? text = e.replacement? text := by
  rw [replacement?, replacement?, hasCause_purge (by decide)]

/-- A purged error is reported as the error is. -/
theorem report_purge (e : StorageError) (fallback : Status) (summary : Option String) :
    e.purge.report fallback summary = e.report fallback summary := by
  unfold report
  rw [purge_purge]

/-- An error that is replaced is shown as one link of the same kind, with the replacement as its
text and as the summary, and its own links go to the operator. -/
theorem sanitize_of_replacement? {e : StorageError} {text : Option String} {t : String}
    (h : e.replacement? text = some t) (fallback : Status) :
    e.sanitize text fallback =
      (report (.single ⟨e.purge.outermost.kind, t⟩) fallback (some t),
        e.purge.toList.map .linkHidden) := by
  unfold sanitize
  dsimp only
  rw [replacement?_purge, h]

/-- An error that is not replaced is reported under its own text. -/
theorem sanitize_of_replacement?_eq_none {e : StorageError} {text : Option String}
    (h : e.replacement? text = none) (fallback : Status) :
    e.sanitize text fallback = (e.report fallback (some e.purge.text), []) := by
  unfold sanitize
  dsimp only
  rw [replacement?_purge, h]
  dsimp only
  rw [report_purge]

/-! ## Hook failures -/

/-- No summary stands in front of a hook failure. -/
theorem report_of_hookFailure {e : StorageError} (h : e.hasCause .hookFailure = true)
    (fallback : Status) (summary : Option String) :
    e.report fallback summary = e.report fallback none := by
  apply Chain.toList_injective
  rw [toList_report, toList_report, if_pos h, if_pos h]

/-- A hook failure is not replaced, and nothing is kept for the operator alone. -/
theorem sanitize_of_hookFailure {e : StorageError} (h : e.hasCause .hookFailure = true)
    (text : Option String) (fallback : Status) :
    e.sanitize text fallback = (e.report fallback none, []) := by
  have hkept : e.replacement? text = none := by
    rw [Option.eq_none_iff_forall_ne_some]
    intro t ht
    have hnone := (replacement?_eq_some_iff.1 ht).2.2
    rw [h] at hnone
    cases hnone
  rw [sanitize_of_replacement?_eq_none hkept, report_of_hookFailure h]

/-- The links of a hook failure that are reported are its own links. -/
theorem toList_report_of_hookFailure {e : StorageError} (h : e.hasCause .hookFailure = true)
    (fallback : Status) :
    (e.report fallback none).toList =
      e.ownLinks.map fun l => l.node (e.purge.outermost.kind.statusOr fallback) := by
  rw [toList_report, if_pos h, List.nil_append, toList_purge_eq,
    reportedLinks_of_ne_nil (ownLinks_ne_nil (by decide) h)]

/-- **A hook failure is never hidden.**  Whatever summary or replacement is asked for, an error
that a hook failure caused is reported in the same way, and its document shows the text of each
link that is no trace link, in their order and nothing beside them. -/
theorem hook_failure_shown {e : StorageError} (h : ∃ l ∈ e.toList, l.kind = .hookFailure)
    (fallback : Status) (summary text : Option String) :
    e.report fallback summary = e.report fallback none ∧
      e.sanitize text fallback = (e.report fallback none, []) ∧
      (Fault.storage e).report fallback = e.report fallback none ∧
      ∃ d : Document, Document.read? (e.report fallback none).document.toList = some d ∧
        (d.elements.filter fun x => x.name = "m:human-readable").map (·.text) =
          (e.toList.filter fun l => l.kind ≠ .trace).map fun l =>
            "\n" ++ quoteText (l.message.getD l.kind.defaultText) ++ "\n" := by
  have hcause : e.hasCause .hookFailure = true := hasCause_eq_true_iff.2 h
  refine ⟨report_of_hookFailure hcause fallback summary,
    sanitize_of_hookFailure hcause text fallback, rfl, _, ErrorReport.read?_document _, ?_⟩
  have howns : e.ownLinks = e.toList.filter fun l => l.kind ≠ .trace := by
    simp [ownLinks, Link.isTrace]
  rw [ErrorReport.filter_readable, toList_report_of_hookFailure hcause, howns, List.map_map,
    List.map_map]
  rfl

/-- A hook failure in the middle of an error, with trace links on both sides. -/
theorem hook_failure_shown_commit :
    let e : StorageError := ⟨⟨.trace, none⟩, [⟨.other 160002, "no <tabs>"⟩, ⟨.hookFailure, none⟩,
      ⟨.trace, "call"⟩, ⟨.notFound, "inner"⟩]⟩
    (∃ l ∈ e.toList, l.kind = .hookFailure) ∧
      e.report .internalError (some "Commit failed") = e.report .internalError none ∧
      e.sanitize (some "Could not commit") .internalError = (e.report .internalError none, []) ∧
      ∃ d : Document, Document.read? (e.report .internalError none).document.toList = some d ∧
        (d.elements.filter fun x => x.name = "m:human-readable").map (·.text) =
          ["\nno &lt;tabs&gt;\n", "\nRepository hook failed\n", "\ninner\n"] := by
  intro e
  have h : ∃ l ∈ e.toList, l.kind = .hookFailure := by decide
  obtain ⟨hsummary, hsanitized, -, d, hread, htexts⟩ :=
    hook_failure_shown h .internalError (some "Commit failed") (some "Could not commit")
  refine ⟨h, hsummary, hsanitized, d, hread, htexts.trans ?_⟩
  decide

/-! ## Replaced errors -/

/-- What the client is shown of an error that is replaced. -/
theorem report_sanitize {e : StorageError} {text : String} (htext : text ≠ "")
    (h : e.hasCause .hookFailure = false) (fallback : Status) :
    (e.sanitize text fallback).1 =
      report (.single ⟨e.purge.outermost.kind, text⟩) fallback (some text) := by
  have hreplaced : e.replacement? text = some text := replacement?_eq_some_iff.2 ⟨rfl, htext, h⟩
  rw [sanitize_of_replacement? hreplaced]

/-- The report of one link whose text is also its summary says nothing else. -/
theorem description_eq_of_mem_report {kind : FailureKind} {text : String} {fallback : Status}
    {n : ReportNode} (hn : n ∈ (report (.single ⟨kind, text⟩) fallback (some text)).toList) :
    n.description = text := by
  rw [toList_report, purge_single, List.mem_append] at hn
  rcases hn with hsummary | hlink
  · split at hsummary
    · cases hsummary
    · obtain ⟨t, ht, rfl⟩ := List.mem_map.1 hsummary
      exact (List.mem_singleton.1 ht)
  · obtain ⟨l, hl, rfl⟩ := List.mem_map.1 hlink
    rw [List.mem_singleton.1 hl]
    rfl

/-- **A replaced error is hidden completely.**  Two errors without hook failures whose first
reported links have the same kind are shown alike behind one text, and every description is that
text. -/
theorem sanitize_hides {text : String} (htext : text ≠ "") (fallback : Status)
    {e d : StorageError} (he : ∀ l ∈ e.toList, l.kind ≠ .hookFailure)
    (hd : ∀ l ∈ d.toList, l.kind ≠ .hookFailure)
    (hkind : e.purge.outermost.kind = d.purge.outermost.kind) :
    (e.sanitize text fallback).1 = (d.sanitize text fallback).1 ∧
      (e.sanitize text fallback).1.response = (d.sanitize text fallback).1.response ∧
      ∀ n ∈ (e.sanitize text fallback).1.toList, n.description = text := by
  have heq := report_sanitize htext (hasCause_eq_false_iff.2 he) fallback
  have hsame : (e.sanitize text fallback).1 = (d.sanitize text fallback).1 := by
    rw [heq, report_sanitize htext (hasCause_eq_false_iff.2 hd), hkind]
  refine ⟨hsame, congrArg ErrorReport.response hsame, fun n hn => ?_⟩
  rw [heq] at hn
  exact description_eq_of_mem_report hn

/-- Two errors that share nothing but the kind of their first reported link. -/
theorem sanitize_hides_missing_item :
    let e : StorageError := ⟨⟨.notFound, "/srv/db/revs/12"⟩, [⟨.other 13, "permission denied"⟩]⟩
    let d : StorageError := ⟨⟨.trace, "call"⟩, [⟨.notFound, none⟩, ⟨.trace, none⟩]⟩
    (∀ l ∈ e.toList, l.kind ≠ .hookFailure) ∧ (∀ l ∈ d.toList, l.kind ≠ .hookFailure) ∧
      e.purge.outermost.kind = d.purge.outermost.kind ∧
      (e.sanitize "Could not read" .internalError).1.response =
        (d.sanitize "Could not read" .internalError).1.response ∧
      (e.sanitize "Could not read" .internalError).1.toList =
        [⟨.notFound, 160013, "Could not read", false⟩,
          ⟨.notFound, 160013, "Could not read", true⟩] := by
  intro e d
  have he : ∀ l ∈ e.toList, l.kind ≠ .hookFailure := by decide
  have hd : ∀ l ∈ d.toList, l.kind ≠ .hookFailure := by decide
  have hkind : e.purge.outermost.kind = d.purge.outermost.kind := by decide
  have hhidden := sanitize_hides (by decide : "Could not read" ≠ "") .internalError he hd hkind
  exact ⟨he, hd, hkind, hhidden.2.1, by decide⟩

/-! ## What the operator is told -/

/-- Whether an error is hidden behind a text: there is one that is not empty, and no hook failed. -/
def IsHiddenBehind (e : StorageError) (text : Option String) : Prop :=
  (∃ t, text = some t ∧ t ≠ "") ∧ ∀ l ∈ e.toList, l.kind ≠ .hookFailure

/-- The texts of the links, as they are told: by the events, or else by the tagged nodes. -/
def diagnosis (told : ErrorReport × List Event) : List String :=
  if told.2.isEmpty then (told.1.toList.filter (·.tagged)).map (·.description)
  else told.2.map Event.message

/-- An error is hidden behind the text that replaces it. -/
theorem isHiddenBehind_iff {e : StorageError} {text : Option String} :
    e.IsHiddenBehind text ↔ ∃ t, e.replacement? text = some t := by
  simp only [replacement?_eq_some_iff, hasCause_eq_false_iff]
  constructor
  · rintro ⟨⟨t, htext, ht⟩, hhook⟩
    exact ⟨t, htext, ht, hhook⟩
  · rintro ⟨t, htext, ht, hhook⟩
    exact ⟨⟨t, htext, ht⟩, hhook⟩

/-- An error that is not hidden is not replaced. -/
theorem replacement?_of_not_isHiddenBehind {e : StorageError} {text : Option String}
    (h : ¬ e.IsHiddenBehind text) : e.replacement? text = none := by
  rw [Option.eq_none_iff_forall_ne_some]
  exact fun t ht => h (isHiddenBehind_iff.2 ⟨t, ht⟩)

/-- The tagged nodes of a report are those of the purged links; a summary is not tagged. -/
theorem filter_tagged_report (e : StorageError) (fallback : Status) (summary : Option String) :
    (e.report fallback summary).toList.filter (·.tagged) =
      e.purge.toList.map fun l => l.node (e.purge.outermost.kind.statusOr fallback) := by
  rw [toList_report, List.filter_append]
  have hlinks : ∀ n ∈ e.purge.toList.map fun l => l.node (e.purge.outermost.kind.statusOr fallback),
      n.tagged = true := by
    intro n hn
    obtain ⟨l, -, rfl⟩ := List.mem_map.1 hn
    rfl
  rw [List.filter_eq_self.2 hlinks]
  apply List.append_left_eq_self.2
  rw [List.filter_eq_nil_iff]
  intro n hn
  split at hn
  · cases hn
  · obtain ⟨t, -, rfl⟩ := List.mem_map.1 hn
    exact Bool.false_ne_true

/-- **Nothing of the diagnosis is lost.**  If an error is hidden, one event of level error tells of
each purged link, in order, with its code and its text, and there is no other event.  If it is not,
there is no event, and the client gets the error under its own text.  So the text of every purged
link is told in either case. -/
theorem sanitize_keeps_diagnosis (e : StorageError) (text : Option String) (fallback : Status) :
    (e.IsHiddenBehind text →
      (e.sanitize text fallback).2.map (fun event => (event.level, event.message, event.fields)) =
        e.purge.toList.map fun l => (Level.error, l.message.getD l.kind.defaultText,
          [("code", Decimal.intText l.kind.code)])) ∧
      (¬ e.IsHiddenBehind text → e.sanitize text fallback =
        (e.report fallback
          (some (e.purge.outermost.message.getD e.purge.outermost.kind.defaultText)), [])) ∧
      diagnosis (e.sanitize text fallback) =
        e.purge.toList.map fun l => l.message.getD l.kind.defaultText := by
  refine ⟨fun hhidden => ?_, fun hshown => ?_, ?_⟩
  · obtain ⟨t, ht⟩ := isHiddenBehind_iff.1 hhidden
    rw [sanitize_of_replacement? ht, List.map_map]
    rfl
  · have hnone : e.replacement? text = none := by
      rw [Option.eq_none_iff_forall_ne_some]
      exact fun t ht => hshown (isHiddenBehind_iff.2 ⟨t, ht⟩)
    exact sanitize_of_replacement?_eq_none hnone fallback
  · cases hreplaced : e.replacement? text with
    | some t =>
      rw [sanitize_of_replacement? hreplaced, diagnosis, if_neg (by simp [Chain.toList_ne_nil]),
        List.map_map]
      rfl
    | none =>
      rw [sanitize_of_replacement?_eq_none hreplaced]
      show ((e.report fallback _).toList.filter (·.tagged)).map (·.description) = _
      rw [filter_tagged_report, List.map_map]
      rfl

/-- A hidden error with a trace link and a link without message, and the same error shown. -/
theorem sanitize_keeps_diagnosis_revision :
    let e : StorageError := ⟨⟨.trace, "call"⟩, [⟨.noSuchRevision, none⟩, ⟨.other 0, "r12"⟩]⟩
    e.IsHiddenBehind (some "Could not read") ∧
      (e.sanitize (some "Could not read") .internalError).2.map
          (fun event => (event.level, event.message, event.fields)) =
        [(.error, "Invalid filesystem revision number", [("code", "160006")]),
          (.error, "r12", [("code", "0")])] ∧
      ¬ e.IsHiddenBehind (some "") ∧
      e.sanitize (some "") .internalError =
        (e.report .internalError (some "Invalid filesystem revision number"), []) := by
  intro e
  have hhidden : e.IsHiddenBehind (some "Could not read") := by
    refine ⟨⟨"Could not read", rfl, by decide⟩, ?_⟩
    simp [e]
  have hshown : ¬ e.IsHiddenBehind (some "") := by
    rintro ⟨⟨t, ht, hne⟩, -⟩
    exact hne (Option.some.inj ht).symm
  have hpurge : e.purge.toList = [⟨.noSuchRevision, none⟩, ⟨.other 0, "r12"⟩] := by decide
  refine ⟨hhidden, ?_, hshown, ?_⟩
  · rw [(sanitize_keeps_diagnosis e (some "Could not read") .internalError).1 hhidden, hpurge]
    decide
  · exact (sanitize_keeps_diagnosis e (some "") .internalError).2.1 hshown

end DavGateway.StorageError
