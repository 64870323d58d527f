/-
# The output of a response

An output keeps the bytes that its sink has not taken yet.  Every write hands
over all of them, flushes the sink, and then looks whether the client has gone;
once it has, the output stays as it is for good.  `settle` ends a response: it
flushes what was started and decides which error is reported.
-/
import DavGateway.Fault
import DavGateway.Output.Sink
import DavGateway.Text.Utf8

namespace DavGateway

/-- The writer of one response. -/
structure Output (σ : Type) where
  sink : σ
  /-- Bytes that the sink has not taken. -/
  buffer : List UInt8 := []
  /-- How many bytes the sink has taken.  The number has no bound; a counter of 64 bits agrees with
  it for every response of fewer than two to the power of 64 bytes. -/
  sent : Nat := 0
  /-- Whether the client was seen to have gone. -/
  aborted : Bool := false
  /-- Whether the response was settled. -/
  finished : Bool := false

/-- Why a write did not succeed. -/
inductive WriteError
  | clientGone
  | failed (failure : String)
  deriving DecidableEq, Repr

/-- The fault that a write error is. -/
def WriteError.fault : WriteError → Fault
  | clientGone => .connectionAborted
  | failed failure => .io failure

/-- How an operation on an output ended. -/
structure Pass (σ : Type) where
  result : Except WriteError Unit
  output : Output σ
  events : List Event := []

namespace Output

variable {σ : Type} [Sink σ]

/-! ## Handing over -/

/-- Hands the buffer over and flushes the sink.  What the sink took leaves the buffer, also if it
failed later. -/
def flushBuffer (o : Output σ) : Except String Unit × Output σ :=
  let delivery := writeAll o.sink o.buffer
  let sent := o.sent + (o.buffer.length - delivery.rest.length)
  match delivery.result with
  | .error failure =>
    (.error failure, { o with sink := delivery.sink, buffer := delivery.rest, sent := sent })
  | .ok () =>
    let (result, sink) := Sink.flush delivery.sink
    (result, { o with sink := sink, buffer := delivery.rest, sent := sent })

/-- Hands the buffer over, and looks whether the client is still there. -/
def pass (o : Output σ) : Pass σ :=
  match o.flushBuffer with
  | (.error failure, o) => { result := .error (.failed failure), output := o }
  | (.ok (), o) =>
    if Sink.isGone o.sink then
      { result := .error .clientGone
        output := { o with aborted := true }
        events := [.clientGone o.sent] }
    else { result := .ok (), output := o }

/-! ## Writing -/

/-- Writes bytes, unless the client was seen to have gone. -/
def write (o : Output σ) (data : List UInt8) : Pass σ :=
  if o.aborted then { result := .error .clientGone, output := o }
  else pass { o with buffer := o.buffer ++ data }

/-- Writes a text. -/
def puts (o : Output σ) (text : String) : Pass σ := o.write (Utf8.bytes text)

/-- Writes several texts as one. -/
def putMany (o : Output σ) (parts : List String) : Pass σ := o.write (parts.flatMap Utf8.bytes)

/-- Hands over what is left, and flushes the sink. -/
def flush (o : Output σ) : Pass σ := o.write []

/-! ## The end of a response -/

/-- Whether the response has begun or is about to. -/
def started (o : Output σ) : Bool :=
  0 < Sink.sentBefore o.sink || 0 < o.sent || o.buffer ≠ []

/-- How the end of a response was settled. -/
structure Settled (σ : Type) where
  report : Option ErrorReport
  output : Output σ
  events : List Event := []

/-- The report of a response whose last flush failed. -/
def flushReport : ErrorReport :=
  .single (.plain .internalError 0 "Error flushing response output.")

/-- Flushes a response that has started, once, and gives the error to report: an earlier one
before that of the flush. -/
def settle (o : Output σ) (earlier : Option ErrorReport) : Settled σ :=
  if o.finished then { report := earlier, output := o }
  else
    let o := { o with finished := true }
    if o.aborted then
      { report := earlier, output := o, events := [.flushSkipped o.buffer.length] }
    else if !o.started then { report := earlier, output := o }
    else
      match o.flushBuffer with
      | (.ok (), o) => { report := earlier, output := o }
      | (.error failure, o) =>
        let cause := (WriteError.failed failure).fault.message
        match earlier with
        | some report => { report := some report, output := o, events := [.flushFailedLate cause] }
        | none => { report := some flushReport, output := o, events := [.flushFailed cause] }

end Output

end DavGateway
