/-
# Quoted texts

How a value from outside stands in a message: between double quotes, with
escapes for what a reader could not see or would take for the closing quote.
-/
import DavGateway.Text.Printable

namespace DavGateway.Quoted

/-- The lower-case hexadecimal digits of a number. -/
def hex (n : Nat) : String := String.ofList (Nat.toDigits 16 n)

/-- One character of a quoted text. -/
def escapeChar (c : Char) : String :=
  if c = '"' then "\\\""
  else if c = '\\' then "\\\\"
  else if c = '\n' then "\\n"
  else if c = '\r' then "\\r"
  else if c = '\t' then "\\t"
  else if c.toNat = 0 then "\\0"
  else if Printable.isPrintable c then c.toString
  else "\\u\x7b" ++ hex c.toNat ++ "\x7d"

/-- A text between double quotes. -/
def text (s : String) : String := "\"" ++ String.join (s.toList.map escapeChar) ++ "\""

/-- One byte of a quoted header value: tabs and visible bytes stay, a backslash included. -/
def escapeByte (b : UInt8) : String :=
  if b = 34 then "\\\""
  else if b = 9 ∨ (32 ≤ b ∧ b ≤ 126) then (Char.ofUInt8 b).toString
  else "\\x" ++ hex b.toNat

/-- A header value between double quotes. -/
def header (bytes : List UInt8) : String :=
  "\"" ++ String.join (bytes.map escapeByte) ++ "\""

end DavGateway.Quoted
