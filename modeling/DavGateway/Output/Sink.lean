/-
# Sinks

The transport of a response takes bytes a few at a time, may fail at any of
them, and shows whether the client has gone.  `writeAll` offers what is left
until nothing is, or until the sink fails or takes nothing.

* `rest_writeAll_suffix` : what the sink did not take is the end of what it was offered.
-/

namespace DavGateway

/-- What takes the bytes of a response. -/
class Sink (σ : Type) where
  /-- Offers bytes; the answer is how many of the first ones were taken. -/
  offer : σ → List UInt8 → Except String Nat × σ
  flush : σ → Except String Unit × σ
  /-- Whether the client has gone. -/
  isGone : σ → Bool
  /-- How many bytes of the response were sent without us. -/
  sentBefore : σ → Nat

/-- How an attempt to write a number of bytes ended. -/
structure Delivery (σ : Type) where
  result : Except String Unit
  sink : σ
  /-- The bytes that the sink did not take. -/
  rest : List UInt8

variable {σ : Type} [Sink σ]

/-- Offers bytes until the sink has taken all.  It is a failure if the sink takes none. -/
def writeAll (sink : σ) (data : List UInt8) : Delivery σ :=
  if data = [] then ⟨.ok (), sink, []⟩
  else
    match Sink.offer sink data with
    | (.error failure, sink) => ⟨.error failure, sink, data⟩
    | (.ok 0, sink) => ⟨.error "write zero", sink, data⟩
    | (.ok (taken + 1), sink) => writeAll sink (data.drop (taken + 1))
termination_by data.length
decreasing_by
  have : data.length ≠ 0 := by simpa using ‹data ≠ []›
  simp only [List.length_drop]
  omega

/-- What the sink did not take is the end of what it was offered. -/
theorem rest_writeAll_suffix (sink : σ) (data : List UInt8) :
    (writeAll sink data).rest <:+ data := by
  fun_induction writeAll sink data with
  | case1 => exact List.nil_suffix
  | case2 => exact List.suffix_refl _
  | case3 => exact List.suffix_refl _
  | case4 _ _ _ _ _ _ ih => exact ih.trans (List.drop_suffix _ _)

end DavGateway
