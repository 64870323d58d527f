/-
# Faults

Everything that can go wrong while a request is served, and the report that
the client gets for it.  URI and storage faults are reported as storage errors
are, so a kind with a status of its own keeps it.
-/
import DavGateway.Report.FromStorage

namespace DavGateway

/-- What went wrong while a request was served. -/
inductive Fault
  | malformedUri (reason : String)
  | unsupportedFeature (reason : String)
  | entityTooLarge (reason : String)
  | badRequest (reason : String)
  /-- The client has gone. -/
  | connectionAborted
  /-- The connection failed, with the text of its failure. -/
  | io (failure : String)
  /-- The storage failed. -/
  | storage (error : StorageError)
  deriving DecidableEq, Repr

namespace Fault

/-- The text of a fault. -/
def message : Fault → String
  | malformedUri reason => "malformed uri: " ++ reason
  | unsupportedFeature reason => "unsupported feature: " ++ reason
  | entityTooLarge reason => "request entity too large: " ++ reason
  | badRequest reason => "bad request: " ++ reason
  | connectionAborted => "connection aborted"
  | io failure => "io error: " ++ failure
  | storage error => "repository error: " ++ error.text

/-- The texts of what a fault was caused by, outermost first. -/
def causes : Fault → List String
  | io failure => [failure]
  | storage error => error.toList.map Link.text
  | _ => []

/-- The report of a fault.  The fallback is used where the fault settles no status. -/
def report (f : Fault) (fallback : Status) : ErrorReport :=
  match f with
  | malformedUri reason => StorageError.report (.single ⟨.malformedUri, reason⟩) fallback none
  | unsupportedFeature reason =>
    StorageError.report (.single ⟨.unsupportedFeature, reason⟩) fallback none
  | entityTooLarge reason => .single (.plain .entityTooLarge 0 reason)
  | badRequest reason => .single (.plain .badRequest 0 reason)
  | connectionAborted =>
    let kind := FailureKind.connectionAborted
    .single (.condition .internalError kind.code kind.defaultText)
  | io failure => .single (.plain .internalError 0 failure)
  | storage error => error.report fallback none

end Fault

/-- The fault that a URI error is. -/
def UriError.fault (e : UriError) : Fault :=
  match e with
  | unparsable | outsideMount | undecodable => .malformedUri e.message
  | unsupportedForm => .unsupportedFeature e.message

end DavGateway
