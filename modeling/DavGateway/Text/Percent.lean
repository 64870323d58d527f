/-
# Percent encoding of path segments

A segment is written byte by byte: bytes of its UTF-8 form that may stand in a
segment stay, every other byte becomes `%` and two upper-case hexadecimal
digits.  Reading takes both cases of digit, leaves a `%` that starts no escape
as it is, and fails only when the bytes it gets are not UTF-8.

* `decode?_encode` : what was encoded is read back exactly.
-/
import DavGateway.Text.Utf8

namespace DavGateway.Percent

/-! ## Writing -/

/-- The marks that stand unescaped in a segment; `;` is not one of them. -/
def marks : List Char := "!$&'()*+,-.:=@_~".toList

/-- Whether a byte stands for itself in an encoded segment. -/
def isPlain (b : UInt8) : Bool :=
  (Char.ofUInt8 b).isAlphanum || marks.contains (Char.ofUInt8 b)

/-- The upper-case hexadecimal digit of a number below sixteen. -/
def hexDigit (n : Nat) : Char :=
  if n < 10 then Char.ofNat (48 + n) else Char.ofNat (55 + n)

/-- One byte of a segment in its written form. -/
def encodeByte (b : UInt8) : List Char :=
  if isPlain b then [Char.ofUInt8 b] else ['%', hexDigit (b.toNat / 16), hexDigit (b.toNat % 16)]

/-- The written form of a segment. -/
def encode (s : List Char) : List Char := (Utf8.encode s).flatMap encodeByte

/-! ## Reading -/

/-- The value of a hexadecimal digit of either case. -/
def hexValue? (b : UInt8) : Option UInt8 :=
  if 48 ≤ b ∧ b ≤ 57 then some (b - 48)
  else if 65 ≤ b ∧ b ≤ 70 then some (b - 55)
  else if 97 ≤ b ∧ b ≤ 102 then some (b - 87)
  else none

/-- Replaces every `%` with two hexadecimal digits behind it by the byte they spell. -/
def decodeBytes : List UInt8 → List UInt8
  | b :: h :: l :: rest =>
    if b = 37 then
      match hexValue? h, hexValue? l with
      | some u, some v => (16 * u + v) :: decodeBytes rest
      | _, _ => b :: decodeBytes (h :: l :: rest)
    else b :: decodeBytes (h :: l :: rest)
  | short => short

/-- Reads a percent-encoded text; fails if the bytes behind it are not UTF-8. -/
def decode? (s : List Char) : Option (List Char) := Utf8.decode? (decodeBytes (Utf8.encode s))

/-! ## What was written is read back -/

/-- A byte other than `%` is read as it is. -/
theorem decodeBytes_cons {b : UInt8} (h : b ≠ 37) (rest : List UInt8) :
    decodeBytes (b :: rest) = b :: decodeBytes rest := by
  rcases rest with _ | ⟨c, _ | ⟨d, rest⟩⟩
  · rfl
  · rfl
  · rw [decodeBytes, if_neg h]

/-- An escape is read as the byte it spells. -/
theorem decodeBytes_escape {high low u v : UInt8} (hu : hexValue? high = some u)
    (hv : hexValue? low = some v) (rest : List UInt8) :
    decodeBytes (37 :: high :: low :: rest) = (16 * u + v) :: decodeBytes rest := by
  simp [decodeBytes, hu, hv]

/-- A plain byte is a character of its own. -/
theorem utf8_of_isPlain : ∀ n < 256, isPlain (UInt8.ofNat n) = true →
    String.utf8EncodeChar (Char.ofUInt8 (UInt8.ofNat n)) = [UInt8.ofNat n] ∧
      UInt8.ofNat n ≠ 37 := by
  decide +kernel

/-- The digits of an escape are characters of one byte, and have the values they stand for. -/
theorem utf8_hexDigit : ∀ n < 16,
    String.utf8EncodeChar (hexDigit n) = [UInt8.ofNat (hexDigit n).toNat] ∧
      hexValue? (UInt8.ofNat (hexDigit n).toNat) = some (UInt8.ofNat n) := by
  decide +kernel

/-- One written byte is read back, whatever follows it. -/
theorem decodeBytes_encodeByte_append (b : UInt8) (rest : List UInt8) :
    decodeBytes (Utf8.encode (encodeByte b) ++ rest) = b :: decodeBytes rest := by
  have bound : b.toNat < 256 := b.toNat_lt
  have self : UInt8.ofNat b.toNat = b := UInt8.ofNat_toNat
  unfold encodeByte
  split
  · next plain =>
    have := utf8_of_isPlain b.toNat bound (by rw [self]; exact plain)
    rw [self] at this
    simp [Utf8.encode, this.1, decodeBytes_cons this.2]
  · obtain ⟨hu, hv⟩ := utf8_hexDigit (b.toNat / 16) (by omega)
    obtain ⟨lu, lv⟩ := utf8_hexDigit (b.toNat % 16) (by omega)
    have percent : String.utf8EncodeChar '%' = [37] := by decide
    have value : 16 * UInt8.ofNat (b.toNat / 16) + UInt8.ofNat (b.toNat % 16) = b := by
      apply UInt8.toNat_inj.1
      simp only [UInt8.toNat_add, UInt8.toNat_mul, UInt8.toNat_ofNat', UInt8.reduceToNat]
      omega
    simp [Utf8.encode, percent, hu, lu, decodeBytes_escape hv lv, value]

/-- Written bytes are read back. -/
theorem decodeBytes_encode (bytes : List UInt8) :
    decodeBytes (Utf8.encode (bytes.flatMap encodeByte)) = bytes := by
  induction bytes with
  | nil => rfl
  | cons b bytes ih =>
    rw [List.flatMap_cons, Utf8.encode_append, decodeBytes_encodeByte_append, ih]

/-- What was encoded is read back exactly. -/
theorem decode?_encode (s : List Char) : decode? (encode s) = some s := by
  rw [decode?, encode, decodeBytes_encode, Utf8.decode?_encode]

end DavGateway.Percent
