/-
# Error reports

An error report is what a client learns of a failure: a chain of nodes, each
with a status, an error id and a description.  Nodes that stand for a link of
a storage error are tagged with a condition element; a summary pushed in front
is not.
-/
import DavGateway.Storage.Error

namespace DavGateway

/-! ## Statuses -/

/-- The status code of a response: three digits, not starting with zero. -/
structure Status where
  code : Nat
  three_digits : 100 ≤ code ∧ code ≤ 999 := by decide
  deriving DecidableEq, Repr

namespace Status

/-- The status of a code, if it has three digits. -/
def ofNat? (code : Nat) : Option Status :=
  if h : 100 ≤ code ∧ code ≤ 999 then some ⟨code, h⟩ else none

def badRequest : Status := { code := 400 }
def notFound : Status := { code := 404 }
def preconditionFailed : Status := { code := 412 }
def entityTooLarge : Status := { code := 413 }
def locked : Status := { code := 423 }
def internalError : Status := { code := 500 }
def notImplemented : Status := { code := 501 }

end Status

/-- The status that a kind of failure has whatever the caller suggests. -/
def FailureKind.status? : FailureKind → Option Status
  | notFound | noSuchRevision => some .notFound
  | unsupportedFeature => some .notImplemented
  | lockOwnerMismatch | pathAlreadyLocked => some .locked
  | propBaseValueMismatch => some .preconditionFailed
  | _ => none

/-! ## Nodes and chains of them -/

/-- One node of a report. -/
structure ReportNode where
  status : Status
  id : Int
  description : String
  tagged : Bool
  deriving DecidableEq, Repr

namespace ReportNode

/-- The id that a report gives: zero stands for a request that failed for no known reason. -/
def reportedId (id : Int) : Int := if id = 0 then FailureKind.requestFailedCode else id

/-- A node without condition element. -/
def plain (status : Status) (id : Int) (description : String) : ReportNode :=
  ⟨status, reportedId id, description, false⟩

/-- A node with the condition element of storage errors. -/
def condition (status : Status) (id : Int) (description : String) : ReportNode :=
  ⟨status, reportedId id, description, true⟩

/-- The namespace of the condition element. -/
def conditionNamespace : String := "svn:"

/-- The name of the condition element. -/
def conditionName : String := "error"

/-- The node in one line of text. -/
def line (n : ReportNode) : String :=
  n.description ++ "  [" ++ Decimal.text n.status.code ++ ", #" ++ Decimal.intText n.id ++ "]"

end ReportNode

/-- A report: nodes, outermost first. -/
abbrev ErrorReport := Chain ReportNode

namespace ErrorReport

/-- The status of the response that carries the report. -/
def status (r : ErrorReport) : Status := r.outermost.status

end ErrorReport

end DavGateway
