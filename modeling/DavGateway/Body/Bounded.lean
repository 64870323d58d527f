/-
# Bodies under a limit

A body is gathered piece by piece.  A declared length above the limit is
refused before anything is read, and the pieces are counted as they come, which
alone protects from bodies that declare nothing.
-/
import DavGateway.Fault

namespace DavGateway

/-- Why a body is not accepted. -/
inductive BodyError
  /-- The declared length is no length. -/
  | invalidLength
  | declaredTooLarge (declared limit : Nat)
  | tooLarge (limit : Nat)
  /-- The body itself failed. -/
  | failed (cause : String)
  deriving DecidableEq, Repr

/-- The fault that a body error is. -/
def BodyError.fault : BodyError → Fault
  | invalidLength => .entityTooLarge "invalid Content-Length"
  | declaredTooLarge declared limit =>
    .entityTooLarge ("requested content-length of " ++ Decimal.text declared
      ++ " is larger than the configured limit of " ++ Decimal.text limit)
  | tooLarge limit =>
    .entityTooLarge ("request body is larger than the configured limit of " ++ Decimal.text limit)
  | failed cause => .badRequest cause

/-- What has been gathered of a body. -/
structure BoundedBody where
  kept : List UInt8 := []
  /-- The length of all pieces, refused ones included.  The number has no bound; a counter of 64
  bits agrees with it as long as fewer than two to the power of 64 bytes have come. -/
  totalRead : Nat := 0
  /-- The limit, if there is one; it is not zero. -/
  limit : Option Nat
  endReached : Bool := false

namespace BoundedBody

/-- The most that is set aside for a body before it has come. -/
def maxReserve : Nat := 1048576

/-- What is set aside for a body of a declared length. -/
def reserve (declared : Nat) : Nat := min declared maxReserve

/-- The limit, if a total is above it. -/
def exceeded? (b : BoundedBody) (total : Nat) : Option Nat := b.limit.filter (· < total)

/-- A body of a declared length, zero if none is.  A limit of zero is none. -/
def start (declared : Nat) (limit : Option Nat) : Except BodyError BoundedBody × List Event :=
  let body : BoundedBody := { limit := limit.filter (0 < ·) }
  match body.exceeded? declared with
  | some limit => (.error (.declaredTooLarge declared limit), [.declaredTooLarge declared limit])
  | none => (.ok body, [])

/-- How taking in a piece ended. -/
structure Push where
  result : Except BodyError Unit
  body : BoundedBody
  events : List Event := []

/-- The body after so many more bytes have come. -/
def count (b : BoundedBody) (bytes : Nat) : BoundedBody :=
  { b with totalRead := b.totalRead + bytes }

/-- Takes in a piece.  It is counted in any case, and kept if the total is within the limit. -/
def push (b : BoundedBody) (chunk : List UInt8) : Push :=
  let b := b.count chunk.length
  match b.exceeded? b.totalRead with
  | some limit => { result := .error (.tooLarge limit), body := b, events := [.bodyTooLarge limit] }
  | none => { result := .ok (), body := { b with kept := b.kept ++ chunk } }

/-- Marks the end of the body. -/
def finish (b : BoundedBody) : BoundedBody := { b with endReached := true }

end BoundedBody

end DavGateway
