/-
# Recorded sinks

A recorder passes every call on to the sink in it, and keeps the bytes that the
sink took and the number of flushes that went well.

* `received_writeAll` : what was received and what is left over make up what was offered.
-/
import DavGateway.Output.Sink

namespace DavGateway

/-- A sink, the bytes that it took and its flushes. -/
structure Recorder (σ : Type) where
  inner : σ
  received : List UInt8 := []
  flushes : Nat := 0

variable {σ : Type} [Sink σ]

/-- Records what the inner sink takes of an offer. -/
def Recorder.offer (r : Recorder σ) (data : List UInt8) : Except String Nat × Recorder σ :=
  match Sink.offer r.inner data with
  | (.error failure, inner) => (.error failure, { r with inner := inner })
  | (.ok taken, inner) =>
    (.ok taken, { r with inner := inner, received := r.received ++ data.take taken })

/-- Counts the flushes of the inner sink. -/
def Recorder.flush (r : Recorder σ) : Except String Unit × Recorder σ :=
  match Sink.flush r.inner with
  | (.error failure, inner) => (.error failure, { r with inner := inner })
  | (.ok (), inner) => (.ok (), { r with inner := inner, flushes := r.flushes + 1 })

instance : Sink (Recorder σ) where
  offer := Recorder.offer
  flush := Recorder.flush
  isGone r := Sink.isGone r.inner
  sentBefore r := Sink.sentBefore r.inner

/-- A write that fails is not recorded. -/
theorem received_of_offer_error {r r' : Recorder σ} {data : List UInt8} {failure : String}
    (h : Sink.offer r data = (.error failure, r')) : r'.received = r.received := by
  simp only [Sink.offer, Recorder.offer] at h
  split at h
  · cases h; rfl
  · cases h

/-- The bytes that the sink took are recorded behind those before. -/
theorem received_of_offer_ok {r r' : Recorder σ} {data : List UInt8} {taken : Nat}
    (h : Sink.offer r data = (.ok taken, r')) : r'.received = r.received ++ data.take taken := by
  simp only [Sink.offer, Recorder.offer] at h
  split at h
  · cases h
  · cases h; rfl

/-- What was received and what is left over make up what was offered. -/
theorem received_writeAll (r : Recorder σ) (data : List UInt8) :
    (writeAll r data).sink.received ++ (writeAll r data).rest = r.received ++ data := by
  fun_induction writeAll r data with
  | case1 => simp
  | case2 r data _ failure r' h => rw [received_of_offer_error h]
  | case3 r data _ r' h => simp [received_of_offer_ok h]
  | case4 r data _ taken r' h ih =>
    rw [ih, received_of_offer_ok h, List.append_assoc, List.take_append_drop]

end DavGateway
