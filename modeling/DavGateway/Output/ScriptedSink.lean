/-
# Scripted sinks

A sink in memory that fails on demand, to rehearse what a connection may do.
-/
import DavGateway.Output.Sink

namespace DavGateway

/-- A sink with its script. -/
structure ScriptedSink where
  /-- Every write fails with this text. -/
  failWrite : Option String := none
  /-- Writes take nothing. -/
  takeNothing : Bool := false
  /-- The most bytes that one write takes. -/
  maxChunk : Option Nat := none
  /-- The most bytes that all writes take; then they fail. -/
  capacity : Option Nat := none
  /-- Every flush fails with this text. -/
  failFlush : Option String := none
  /-- The client has gone. -/
  gone : Bool := false
  /-- The client goes once so many bytes are taken. -/
  goneAfter : Option Nat := none
  sentBefore : Nat := 0
  /-- How many bytes were taken. -/
  taken : Nat := 0

namespace ScriptedSink

/-- The smaller of a number and a bound, if there is one. -/
def atMost (bound : Option Nat) (n : Nat) : Nat :=
  match bound with
  | some bound => min n bound
  | none => n

/-- How many bytes of an offer are taken: the script's failures come first, then its bounds. -/
def answer (s : ScriptedSink) (offered : Nat) : Except String Nat :=
  match s.failWrite with
  | some failure => .error failure
  | none =>
    if s.takeNothing then .ok 0
    else
      let chunk := atMost s.maxChunk offered
      match s.capacity with
      | none => .ok chunk
      | some capacity =>
        if capacity ≤ s.taken then .error "sink is full" else .ok (min chunk (capacity - s.taken))

/-- Answers an offer and counts the bytes taken. -/
def offer (s : ScriptedSink) (data : List UInt8) : Except String Nat × ScriptedSink :=
  match s.answer data.length with
  | .ok n => (.ok n, { s with taken := s.taken + n })
  | .error failure => (.error failure, s)

instance : Sink ScriptedSink where
  offer := offer
  flush s := (match s.failFlush with
    | some failure => .error failure
    | none => .ok (), s)
  isGone s := s.gone || (match s.goneAfter with
    | some bytes => bytes ≤ s.taken
    | none => false)
  sentBefore := ScriptedSink.sentBefore

end ScriptedSink

end DavGateway
