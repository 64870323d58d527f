/-
# Base64 within a response

A stream encodes what is written to it into an output, whole groups of three
bytes as they fill up.  At most two bytes wait for more; `finish` writes them
with padding.
-/
import DavGateway.Output.Basic
import DavGateway.Text.Base64

namespace DavGateway

/-- A stream that encodes into an output. -/
structure Base64Stream where
  /-- Bytes that do not fill a group yet. -/
  held : List UInt8 := []

namespace Base64Stream

variable {σ : Type} [Sink σ]

/-- Takes in bytes and writes the groups that they fill.  The bytes of these groups count as
written whether or not the output takes them. -/
def write (s : Base64Stream) (o : Output σ) (data : List UInt8) : Base64Stream × Pass σ :=
  let bytes := s.held ++ data
  let whole := bytes.length / 3 * 3
  if whole = 0 then (⟨bytes⟩, { result := .ok (), output := o })
  else (⟨bytes.drop whole⟩, o.write (Base64.encode (bytes.take whole)))

/-- Writes what is held, with padding. -/
def finish (s : Base64Stream) (o : Output σ) : Pass σ :=
  if s.held = [] then { result := .ok (), output := o }
  else o.write (Base64.encode s.held)

end Base64Stream

end DavGateway
