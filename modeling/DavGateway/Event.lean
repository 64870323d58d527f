/-
# Events

What the gateway tells its operator.  An event is named by its cause and
carries what was known then; level, message and fields are functions of it.
-/
import DavGateway.Resource.Build
import DavGateway.Storage.Error
import DavGateway.Text.Quoted

namespace DavGateway

/-- How serious an event is. -/
inductive Level
  | error | warn | info | debug | trace
  deriving DecidableEq, Repr

/-- Something worth telling the operator. -/
inductive Event
  /-- A request declares a body above the limit. -/
  | declaredTooLarge (declared limit : Nat)
  /-- A body grows above the limit while it is read. -/
  | bodyTooLarge (limit : Nat)
  /-- A declared length is no length. -/
  | invalidLength (header : List UInt8)
  /-- The body itself fails. -/
  | bodyFailed (cause : String)
  /-- A piece of the body has arrived. -/
  | chunkRead (length : Nat)
  /-- The client is found to have gone, after so many bytes were handed over. -/
  | clientGone (sent : Nat)
  /-- The last flush is left out, because the client has gone. -/
  | flushSkipped (pending : Nat)
  /-- The last flush fails, but an earlier error is reported instead. -/
  | flushFailedLate (cause : String)
  /-- The last flush fails, and this is reported. -/
  | flushFailed (cause : String)
  /-- A link of a storage error that the client does not see. -/
  | linkHidden (link : Link)
  /-- A line of a report that was asked to be logged. -/
  | reported (level : Level) (line : String)
  /-- The history of a path could not be asked for. -/
  | historyFailed (cause : StorageError) (revision : Revision) (path : String)
  /-- Two revisions of a path could not be compared. -/
  | comparisonFailed (cause : StorageError) (revision history : Revision) (path : String)
  deriving DecidableEq, Repr

namespace Event

/-- The level of an event. -/
def level : Event → Level
  | declaredTooLarge .. | bodyTooLarge .. | invalidLength .. | bodyFailed .. | flushFailed ..
  | linkHidden .. => .error
  | chunkRead .. => .trace
  | clientGone .. | flushSkipped .. | flushFailedLate .. | historyFailed ..
  | comparisonFailed .. => .debug
  | reported level _ => level

/-- The text of an event. -/
def message : Event → String
  | declaredTooLarge .. => "requested content-length is larger than the configured limit"
  | bodyTooLarge .. => "request body is larger than the configured limit"
  | invalidLength .. => "invalid Content-Length"
  | bodyFailed .. => "failed to read request body"
  | chunkRead .. => "read request body chunk"
  | clientGone .. => "client connection aborted while writing response"
  | flushSkipped .. => "skipping final flush of aborted response"
  | flushFailedLate .. => "final flush failed after an earlier error"
  | flushFailed .. => "final flush of response failed"
  | linkHidden link => link.text
  | reported _ line => line
  | historyFailed .. => "couldn't find last history rev"
  | comparisonFailed .. => "couldn't compare node across revisions"

/-- The fields of an event, by name. -/
def fields : Event → List (String × String)
  | declaredTooLarge declared limit =>
    [("content_length", Decimal.text declared), ("limit", Decimal.text limit)]
  | bodyTooLarge limit => [("limit", Decimal.text limit)]
  | invalidLength header => [("content_length", Quoted.header header)]
  | bodyFailed cause => [("cause", cause)]
  | chunkRead length => [("len", Decimal.text length)]
  | clientGone sent => [("sent", Decimal.text sent)]
  | flushSkipped pending => [("pending", Decimal.text pending)]
  | flushFailedLate cause => [("cause", cause)]
  | flushFailed cause => [("cause", cause)]
  | linkHidden link => [("code", Decimal.intText link.kind.code)]
  | reported .. => []
  | historyFailed cause revision path =>
    [("cause", cause.text), ("revision", Decimal.text revision.toNat), ("path", path)]
  | comparisonFailed cause revision history path =>
    [("cause", cause.text), ("revision", Decimal.text revision.toNat),
      ("history_rev", Decimal.text history.toNat), ("path", path)]

end Event

end DavGateway
