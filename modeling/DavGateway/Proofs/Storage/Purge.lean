/-
# What purging keeps

Purging an error drops its trace links and nothing else, unless it has no other
links.  So it keeps every kind that an error was caused by, purging twice is
purging once, and errors that differ only in their trace links are purged alike.

* `toList_purge_eq` : a purged error consists of the reported links.
* `hasCause_purge` : no cause other than a trace is lost.
* `purge_purge`, `purge_eq_of_ownLinks_eq` : what purging depends on.
* `purge_filters` : purging is a filter, but leaves something of every error.
-/
import DavGateway.Storage.Error

namespace DavGateway.StorageError

/-- The links that are no trace links, outermost first. -/
def ownLinks (e : StorageError) : List Link := e.toList.filter fun l => !l.isTrace

/-- The links that are reported: those that are no trace links, or the innermost one if there are
none. -/
def reportedLinks (e : StorageError) : List Link :=
  if e.ownLinks = [] then [e.innermost] else e.ownLinks

/-! ## Causes -/

theorem hasCause_eq_true_iff {e : StorageError} {k : FailureKind} :
    e.hasCause k = true ↔ ∃ l ∈ e.toList, l.kind = k := by
  simp [hasCause]

theorem hasCause_eq_false_iff {e : StorageError} {k : FailureKind} :
    e.hasCause k = false ↔ ∀ l ∈ e.toList, l.kind ≠ k := by
  simp [hasCause]

/-- The own links are those whose kind is not that of a trace. -/
theorem mem_ownLinks {e : StorageError} {l : Link} :
    l ∈ e.ownLinks ↔ l ∈ e.toList ∧ l.kind ≠ .trace := by
  simp [ownLinks, Link.isTrace]

/-- The own links, by their kinds. -/
theorem ownLinks_eq_filter (e : StorageError) :
    e.ownLinks = e.toList.filter fun l => l.kind ≠ .trace := by
  simp [ownLinks, Link.isTrace]

/-- An error has own links if some link of it is no trace link. -/
theorem ownLinks_ne_nil_iff {e : StorageError} :
    e.ownLinks ≠ [] ↔ ∃ l ∈ e.toList, l.kind ≠ .trace := by
  constructor
  · intro h
    obtain ⟨l, hl⟩ := List.exists_mem_of_ne_nil _ h
    exact ⟨l, mem_ownLinks.1 hl⟩
  · rintro ⟨l, hl⟩
    exact List.ne_nil_of_mem (mem_ownLinks.2 hl)

/-- The own links of an error with one more link in front. -/
theorem ownLinks_push (l : Link) (e : StorageError) :
    ownLinks (e.push l) = if l.kind = .trace then e.ownLinks else l :: e.ownLinks := by
  by_cases hl : l.kind = .trace <;> simp [ownLinks, Link.isTrace, hl]

/-- Only an error of trace links has no own links. -/
theorem ownLinks_eq_nil_iff {e : StorageError} :
    e.ownLinks = [] ↔ e.toList.all Link.isTrace = true := by
  simp [ownLinks, List.filter_eq_nil_iff]

/-- An error with a cause that is no trace has own links. -/
theorem ownLinks_ne_nil {e : StorageError} {k : FailureKind} (hk : k ≠ .trace)
    (h : e.hasCause k = true) : e.ownLinks ≠ [] := by
  obtain ⟨l, hl, rfl⟩ := hasCause_eq_true_iff.1 h
  exact List.ne_nil_of_mem (mem_ownLinks.2 ⟨hl, hk⟩)

/-! ## Purged errors -/

/-- A purged error consists of the reported links. -/
theorem toList_purge_eq (e : StorageError) : e.purge.toList = e.reportedLinks := by
  rw [toList_purge, reportedLinks]
  simp only [← ownLinks_eq_nil_iff]
  rfl

/-- If there are own links, they are what is reported. -/
theorem reportedLinks_of_ne_nil {e : StorageError} (h : e.ownLinks ≠ []) :
    e.reportedLinks = e.ownLinks := if_neg h

/-- An error of one link is left as it is. -/
theorem purge_single (l : Link) : purge (.single l) = .single l := by
  apply Chain.toList_injective
  rw [toList_purge_eq, reportedLinks]
  split
  · rfl
  · next hne =>
    -- the only link is an own link
    have hl : l.isTrace = false := by
      rw [← Bool.not_eq_true]
      intro htrace
      exact hne (by simp [ownLinks, htrace])
    simp [ownLinks, hl]

/-- Purging keeps every cause but traces, and adds none. -/
theorem hasCause_purge {k : FailureKind} (hk : k ≠ .trace) (e : StorageError) :
    e.purge.hasCause k = e.hasCause k := by
  rw [Bool.eq_iff_iff, hasCause_eq_true_iff, hasCause_eq_true_iff, toList_purge_eq]
  constructor
  · rintro ⟨l, hl, rfl⟩
    unfold reportedLinks at hl
    split at hl
    · rw [List.mem_singleton] at hl
      exact ⟨l, hl ▸ e.innermost_mem, rfl⟩
    · exact ⟨l, (mem_ownLinks.1 hl).1, rfl⟩
  · rintro ⟨l, hl, rfl⟩
    have hown : l ∈ e.ownLinks := mem_ownLinks.2 ⟨hl, hk⟩
    exact ⟨l, by rwa [reportedLinks_of_ne_nil (List.ne_nil_of_mem hown)], rfl⟩

/-- Errors with the same own links are purged alike, if they have any. -/
theorem purge_eq_of_ownLinks_eq {e d : StorageError} (hne : e.ownLinks ≠ [])
    (h : d.ownLinks = e.ownLinks) : d.purge = e.purge := by
  apply Chain.toList_injective
  rw [toList_purge_eq, toList_purge_eq, reportedLinks_of_ne_nil hne,
    reportedLinks_of_ne_nil (h ▸ hne), h]

/-- Purging twice is purging once. -/
theorem purge_purge (e : StorageError) : e.purge.purge = e.purge := by
  by_cases hnil : e.ownLinks = []
  · -- only the innermost link is left
    have hsingle : e.purge = .single e.innermost := by
      apply Chain.toList_injective
      rw [toList_purge_eq, reportedLinks, if_pos hnil]
      rfl
    rw [hsingle, purge_single]
  · apply purge_eq_of_ownLinks_eq hnil
    rw [ownLinks, toList_purge_eq, reportedLinks_of_ne_nil hnil, ownLinks, List.filter_filter]
    simp

/-! ## Links in front of an error -/

/-- A trace link in front of other links is purged. -/
theorem purge_push_of_trace {e : StorageError} {l : Link} (hne : e.ownLinks ≠ [])
    (hl : l.kind = .trace) : purge (e.push l) = e.purge := by
  apply purge_eq_of_ownLinks_eq hne
  rw [ownLinks_push, if_pos hl]

/-- Any other link in front of own links stays in front. -/
theorem purge_push_of_ne_trace {e : StorageError} {l : Link} (hne : e.ownLinks ≠ [])
    (hl : l.kind ≠ .trace) : purge (e.push l) = e.purge.push l := by
  have howns : ownLinks (e.push l) = l :: e.ownLinks := by rw [ownLinks_push, if_neg hl]
  have hmore : ownLinks (e.push l) ≠ [] := by
    rw [howns]
    exact List.cons_ne_nil _ _
  apply Chain.toList_injective
  rw [Chain.toList_push, toList_purge_eq, toList_purge_eq, reportedLinks_of_ne_nil hne,
    reportedLinks_of_ne_nil hmore, howns]

/-- A trace link is left only of an error that has no other links. -/
theorem hasCause_trace_purge_iff {e : StorageError} :
    e.purge.hasCause .trace = true ↔ e.ownLinks = [] := by
  rw [hasCause_eq_true_iff, toList_purge_eq]
  constructor
  · rintro ⟨l, hl, htrace⟩
    unfold reportedLinks at hl
    split at hl
    · assumption
    · exact absurd htrace (mem_ownLinks.1 hl).2
  · intro hnil
    have hall : ∀ l ∈ e.toList, l.isTrace = true := by simpa using ownLinks_eq_nil_iff.1 hnil
    refine ⟨e.innermost, ?_, by simpa [Link.isTrace] using hall _ e.innermost_mem⟩
    rw [reportedLinks, if_pos hnil]
    exact List.mem_singleton_self _

/-- **Purging is a filter that leaves something of every error.**  The links that are no trace links
stay as they are and in their order; if there are none, the innermost link stays.  So purging again
changes nothing, links in front of own links are purged by themselves, no cause but a trace is lost
or added, and a trace is found afterwards only if there was nothing else. -/
theorem purge_filters (e : StorageError) :
    (e.purge.toList =
      if ∃ l ∈ e.toList, l.kind ≠ .trace then e.toList.filter fun l => l.kind ≠ .trace
      else [e.toList.getLast e.toList_ne_nil]) ∧
      e.purge.purge = e.purge ∧
      (∀ l : Link, (∃ o ∈ e.toList, o.kind ≠ .trace) →
        purge (e.push l) = if l.kind = .trace then e.purge else e.purge.push l) ∧
      (∀ k : FailureKind, k ≠ .trace → e.purge.hasCause k = e.hasCause k) ∧
      (e.purge.hasCause .trace = true ↔ ∀ l ∈ e.toList, l.kind = .trace) := by
  refine ⟨?_, purge_purge e, fun l hown => ?_, fun k hk => hasCause_purge hk e, ?_⟩
  · rw [toList_purge_eq]
    by_cases hown : ∃ l ∈ e.toList, l.kind ≠ .trace
    · rw [if_pos hown, reportedLinks_of_ne_nil (ownLinks_ne_nil_iff.2 hown), ownLinks_eq_filter]
    · have hnil : e.ownLinks = [] := Decidable.not_not.1 (mt ownLinks_ne_nil_iff.1 hown)
      rw [if_neg hown, reportedLinks, if_pos hnil, e.innermost_eq_getLast]
  · have hne : e.ownLinks ≠ [] := ownLinks_ne_nil_iff.2 hown
    split
    · next hl => exact purge_push_of_trace hne hl
    · next hl => exact purge_push_of_ne_trace hne hl
  · rw [hasCause_trace_purge_iff, ownLinks_eq_nil_iff]
    simp [Link.isTrace]

/-- Trace links in front, behind and twice in the middle, one of them with a message. -/
theorem purge_filters_scattered_traces :
    let e : StorageError := ⟨⟨.trace, none⟩, [⟨.other 0, "outer"⟩, ⟨.trace, "call"⟩, ⟨.trace, none⟩,
      ⟨.notFound, none⟩, ⟨.trace, "last"⟩]⟩
    let l : Link := ⟨.hookFailure, "refused"⟩
    (∃ o ∈ e.toList, o.kind ≠ .trace) ∧ FailureKind.notFound ≠ .trace ∧
      purge (e.push l) = e.purge.push l ∧ e.purge.hasCause .notFound = e.hasCause .notFound ∧
      e.purge.toList = [⟨.other 0, "outer"⟩, ⟨.notFound, none⟩] := by
  intro e l
  have hown : ∃ o ∈ e.toList, o.kind ≠ .trace := ⟨⟨.notFound, none⟩, by simp [e], by decide⟩
  have hkind : FailureKind.notFound ≠ .trace := by decide
  obtain ⟨-, -, hpush, hcause, -⟩ := purge_filters e
  exact ⟨hown, hkind, hpush l hown, hcause .notFound hkind, by decide⟩

end DavGateway.StorageError
