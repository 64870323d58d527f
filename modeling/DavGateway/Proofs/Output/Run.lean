/-
# Runs of an output

A session is an output over a recorded sink, with the base64 stream that was
opened on it last.  It goes through operations in any order: those of the
output, those of the stream, and changes that the sink makes by itself.

* `Session.run` : the session after some operations.
* `Session.appended` : what these operations append, in their order.
-/
import DavGateway.Output.Base64Stream
import DavGateway.Output.Recorder

namespace DavGateway

/-- Something that happens to an output. -/
inductive Operation (σ : Type)
  | write (data : List UInt8)
  | puts (text : String)
  | putMany (parts : List String)
  | flush
  /-- A stream is opened; what an earlier one holds is lost. -/
  | openStream
  | streamWrite (data : List UInt8)
  | streamFinish
  | settle (earlier : Option ErrorReport)
  /-- The sink changes by itself: the client goes, or the transport sends. -/
  | sinkChange (change : σ → σ)

/-- What an operation answers. -/
inductive Answer
  | passed (result : Except WriteError Unit)
  | settled (report : Option ErrorReport)
  /-- Nothing can go wrong. -/
  | done

/-- An output over a recorded sink, and the stream on it. -/
structure Session (σ : Type) where
  output : Output (Recorder σ)
  stream : Base64Stream := {}

/-- What an operation comes to. -/
structure Turn (σ : Type) where
  answer : Answer
  session : Session σ

namespace Session

variable {σ : Type}

/-- A new output over a sink. -/
def start (sink : σ) : Session σ := { output := { sink := { inner := sink } } }

/-- The session with another output. -/
def withOutput (s : Session σ) (o : Output (Recorder σ)) : Session σ := { s with output := o }

/-- The session after its sink has changed. -/
def changeSink (s : Session σ) (change : σ → σ) : Session σ :=
  s.withOutput
    { s.output with sink := { s.output.sink with inner := change s.output.sink.inner } }

/-! ## Appends -/

/-- The bytes that an operation is about to append; parts are put together, and a stream appends
the groups that it fills. -/
def offered (s : Session σ) : Operation σ → List UInt8
  | .write data => data
  | .puts text => Utf8.bytes text
  | .putMany parts => parts.flatMap Utf8.bytes
  | .streamWrite data =>
    let bytes := s.stream.held ++ data
    Base64.encode (bytes.take (bytes.length / 3 * 3))
  | .streamFinish => Base64.encode s.stream.held
  | .flush | .openStream | .settle _ | .sinkChange _ => []

/-- The bytes that an operation appends: none once the client was seen to have gone. -/
def appends (s : Session σ) (op : Operation σ) : List UInt8 :=
  if s.output.aborted then [] else s.offered op

variable [Sink σ]

/-! ## Steps and runs -/

/-- The turn that a pass of the output makes. -/
def passed (s : Session σ) (p : Pass (Recorder σ)) : Turn σ := ⟨.passed p.result, s.withOutput p.output⟩

/-- One operation. -/
def step (s : Session σ) : Operation σ → Turn σ
  | .write data => s.passed (s.output.write data)
  | .puts text => s.passed (s.output.puts text)
  | .putMany parts => s.passed (s.output.putMany parts)
  | .flush => s.passed s.output.flush
  | .openStream => ⟨.done, { s with stream := {} }⟩
  | .streamWrite data =>
    let (stream, p) := s.stream.write s.output data
    { s with stream := stream }.passed p
  | .streamFinish => { s with stream := {} }.passed (s.stream.finish s.output)
  | .settle earlier =>
    let settled := s.output.settle earlier
    ⟨.settled settled.report, s.withOutput settled.output⟩
  | .sinkChange change => ⟨.done, s.changeSink change⟩

/-- The session after an operation. -/
def after (s : Session σ) (op : Operation σ) : Session σ := (s.step op).session

/-- The session after some operations. -/
def run (s : Session σ) (ops : List (Operation σ)) : Session σ := ops.foldl after s

@[simp] theorem run_nil (s : Session σ) : s.run [] = s := rfl

@[simp] theorem run_cons (s : Session σ) (op : Operation σ) (ops : List (Operation σ)) :
    s.run (op :: ops) = (s.after op).run ops := rfl

theorem run_append (s : Session σ) (ops more : List (Operation σ)) :
    s.run (ops ++ more) = (s.run ops).run more := List.foldl_append

/-- What some operations append, in their order. -/
def appended (s : Session σ) : List (Operation σ) → List UInt8
  | [] => []
  | op :: ops => s.appends op ++ (s.after op).appended ops

/-- What is appended in two parts of a run. -/
theorem appended_append (s : Session σ) (ops more : List (Operation σ)) :
    s.appended (ops ++ more) = s.appended ops ++ (s.run ops).appended more := by
  induction ops generalizing s with
  | nil => rfl
  | cons op ops ih =>
    rw [List.cons_append, appended, ih, appended, run_cons, List.append_assoc]

end Session

end DavGateway
