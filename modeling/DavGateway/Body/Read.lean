/-
# Reading a request body

A body comes in frames.  Reading asks for one frame after the other, and stops
at the first that fails or passes the limit; what comes after it is not asked
for.
-/
import DavGateway.Body.Bounded
import DavGateway.Settings

namespace DavGateway

/-! ## The declared length -/

/-- A byte of a header value that is text: a tab or a visible character of ASCII. -/
def isHeaderText (b : UInt8) : Bool := b = 9 || (32 ≤ b && b ≤ 126)

/-- The lengths that can be declared lie below this bound, the sixty-third power of two. -/
def lengthBound : Int := 9223372036854775808

/-- The length that a header value declares: a number within the bound, which may have a sign. -/
def declaredLength? (value : List UInt8) : Option Nat :=
  if value.all isHeaderText then
    match Decimal.signed? (value.map Char.ofUInt8) with
    | some n => if 0 ≤ n ∧ n < lengthBound then some n.toNat else none
    | none => none
  else none

/-- The length that a header value declares, or the error that it is. -/
def declaredLength (value : List UInt8) : Except BodyError Nat × List Event :=
  match declaredLength? value with
  | some n => (.ok n, [])
  | none => (.error .invalidLength, [.invalidLength value])

/-! ## Frames -/

/-- A frame of a body. -/
inductive Frame
  | data (bytes : List UInt8)
  /-- Fields after the body, which are not used. -/
  | trailers
  /-- The body fails instead of giving a frame. -/
  | failed (cause : String)
  deriving DecidableEq, Repr

/-- How the reading of a body ended. -/
structure Reading where
  result : Except BodyError (List UInt8)
  /-- How many times a frame was asked for. -/
  polls : Nat
  events : List Event := []

/-- The reading that follows one more frame and its events. -/
def Reading.after (r : Reading) (events : List Event) : Reading :=
  { r with polls := r.polls + 1, events := events ++ r.events }

/-- Reads the frames that are left into a body. -/
def BoundedBody.readFrames (b : BoundedBody) : List Frame → Reading
  | [] => { result := .ok b.finish.kept, polls := 1 }
  | .failed cause :: _ =>
    { result := .error (.failed cause), polls := 1, events := [.bodyFailed cause] }
  | .trailers :: rest => (b.readFrames rest).after []
  | .data bytes :: rest =>
    let step := b.push bytes
    let events := .chunkRead bytes.length :: step.events
    match step.result with
    | .error e => { result := .error e, polls := 1, events := events }
    | .ok () => (step.body.readFrames rest).after events

/-- Reads a body whose length is declared by a header value, if there is one. -/
def readBody (frames : List Frame) (header : Option (List UInt8)) (limit : Option Nat) : Reading :=
  let (declared, events) := match header with
    | some value => declaredLength value
    | none => (.ok 0, [])
  match declared with
  | .error e => { result := .error e, polls := 0, events := events }
  | .ok declared =>
    match BoundedBody.start declared limit with
    | (.error e, events) => { result := .error e, polls := 0, events := events }
    | (.ok body, _) => body.readFrames frames

/-! ## Requests -/

/-- A request: its header fields in order, and the frames of its body. -/
structure Request where
  headers : List (String × List UInt8)
  frames : List Frame

/-- The value of the first field of a name; case does not matter. -/
def Request.header? (r : Request) (name : String) : Option (List UInt8) :=
  (r.headers.find? fun field => field.1.toLower = name).map (·.2)

/-- Reads the body of a request under the limit of a location. -/
def Request.readBody (r : Request) (settings : Settings) : Reading :=
  DavGateway.readBody r.frames (r.header? "content-length") settings.bodyLimit?

end DavGateway
