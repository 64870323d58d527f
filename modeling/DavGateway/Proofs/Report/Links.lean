/-
# Reports, link for link

The report of a storage error has one node for each reported link, in order and
all with one status, and a summary in front if one was asked for and no hook
failed.  Nothing else of the error shows in it: where trace links stand, and how
many there are, makes no difference beside a link that is none.

* `StorageError.toList_report` : the nodes of a report.
* `StorageError.report_link_for_link` : what they say, and what they depend on.
-/
import DavGateway.Proofs.Storage.Purge
import DavGateway.Report.FromStorage

namespace DavGateway

/-! ## What a report has to say -/

/-- The status that an error is reported with, from the kind of its first reported link. -/
def FailureKind.statusOr (k : FailureKind) (fallback : Status) : Status :=
  if k = notFound ∨ k = noSuchRevision then .notFound
  else if k = unsupportedFeature then .notImplemented
  else if k = lockOwnerMismatch ∨ k = pathAlreadyLocked then .locked
  else if k = propBaseValueMismatch then .preconditionFailed
  else fallback

/-- The node that a link is reported with. -/
def Link.node (l : Link) (status : Status) : ReportNode where
  status := status
  id := if l.kind.code = 0 then 175002 else l.kind.code
  description := l.message.getD l.kind.defaultText
  tagged := true

/-- The node of a summary that stands in front of a link. -/
def Link.summary (l : Link) (status : Status) (text : String) : ReportNode :=
  { l.node status with description := text, tagged := false }

/-- Only the kinds with a status of their own are not left to the fallback. -/
theorem FailureKind.status?_getD (k : FailureKind) (fallback : Status) :
    k.status?.getD fallback = k.statusOr fallback := by
  cases k <;> rfl

namespace StorageError

/-! ## The nodes of a report -/

/-- The nodes of a report are those of the purged links, behind the summary. -/
theorem toList_report (e : StorageError) (fallback : Status) (summary : Option String) :
    (e.report fallback summary).toList =
      (if e.hasCause .hookFailure then []
        else summary.toList.map
          (e.purge.outermost.summary (e.purge.outermost.kind.statusOr fallback))) ++
        e.purge.toList.map fun l => l.node (e.purge.outermost.kind.statusOr fallback) := by
  -- the hook failure is looked for in the purged error
  rw [← hasCause_purge (by decide) e, ← FailureKind.status?_getD]
  unfold report
  cases summary with
  | none =>
    simp only [Option.toList_none, List.map_nil, ite_self, List.nil_append]
    rfl
  | some text =>
    by_cases hhook : e.purge.hasCause .hookFailure
    · simp only [hhook, if_true, List.nil_append]
      rfl
    · simp only [hhook]
      rfl

/-- The outermost link of a purged error is the first that is reported. -/
theorem reportedLinks_eq_cons (e : StorageError) :
    e.reportedLinks = e.purge.outermost :: e.purge.causes :=
  (toList_purge_eq e).symm

/-- All nodes of a report have the status of the response. -/
theorem status_eq_of_mem_report {e : StorageError} {fallback : Status} {summary : Option String}
    {n : ReportNode} (hn : n ∈ (e.report fallback summary).toList) :
    n.status = e.purge.outermost.kind.statusOr fallback := by
  rw [toList_report, List.mem_append] at hn
  rcases hn with hsummary | hlink
  · split at hsummary
    · cases hsummary
    · obtain ⟨text, -, rfl⟩ := List.mem_map.1 hsummary
      rfl
  · obtain ⟨l, -, rfl⟩ := List.mem_map.1 hlink
    rfl

/-- **Errors are reported link for link.**  The first reported link settles the status; every
reported link has its node, behind the summary if there is one and no hook failed.  Trace links
that are put in or taken out change nothing if the error has other links. -/
theorem report_link_for_link (e : StorageError) (fallback : Status) :
    (∃ first rest, e.reportedLinks = first :: rest ∧
      ∀ summary : Option String,
        ((e.report fallback summary).toList =
          (if ∃ l ∈ e.toList, l.kind = .hookFailure then []
            else summary.toList.map (first.summary (first.kind.statusOr fallback))) ++
            e.reportedLinks.map fun l => l.node (first.kind.statusOr fallback)) ∧
        ∀ n ∈ (e.report fallback summary).toList, n.status = first.kind.statusOr fallback) ∧
    ∀ (d : StorageError) (summary : Option String), e.ownLinks ≠ [] → d.ownLinks = e.ownLinks →
      d.report fallback summary = e.report fallback summary := by
  constructor
  · refine ⟨_, _, reportedLinks_eq_cons e, fun summary => ⟨?_, fun n => status_eq_of_mem_report⟩⟩
    simp only [toList_report, toList_purge_eq, hasCause_eq_true_iff]
  · intro d summary hne howns
    have hpurge : d.purge = e.purge := purge_eq_of_ownLinks_eq hne howns
    unfold report
    rw [hpurge]

/-- Four trace links around and between two others, one of which has no code. -/
theorem report_link_for_link_traces :
    let e : StorageError := ⟨⟨.other 0, "outer"⟩, [⟨.notFound, none⟩]⟩
    let d : StorageError := ⟨⟨.trace, none⟩, [⟨.other 0, "outer"⟩, ⟨.trace, "call"⟩, ⟨.trace, none⟩,
      ⟨.notFound, none⟩, ⟨.trace, none⟩]⟩
    e.ownLinks ≠ [] ∧ d.ownLinks = e.ownLinks ∧
      d.report .badRequest (some "summary") = e.report .badRequest (some "summary") ∧
      (e.report .badRequest (some "summary")).toList =
        [⟨.badRequest, 175002, "summary", false⟩, ⟨.badRequest, 175002, "outer", true⟩,
          ⟨.badRequest, 160013, "Filesystem has no item", true⟩] := by
  intro e d
  have hne : e.ownLinks ≠ [] := by decide
  have howns : d.ownLinks = e.ownLinks := by decide
  exact ⟨hne, howns, (report_link_for_link e .badRequest).2 d (some "summary") hne howns, by decide⟩

end StorageError

end DavGateway
