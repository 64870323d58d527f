/-
# Declared lengths

A header value that declares a length is a number in decimal below the sixty-third
power of two.  Besides the digits it may have one plus sign in front, and zero
one minus sign; every other value is refused, and one event tells of it.

* `declaredLength?_eq_some_iff` : the values that declare a length, byte for byte.
* `declaredLength_accepts` : and what happens to all others.
-/
import DavGateway.Body.Read

namespace DavGateway

/-! ## Numbers in bytes -/

/-- The number that digits stand for, each of them by its place. -/
def placeValue : List UInt8 → Nat
  | [] => 0
  | b :: digits => (b.toNat - 48) * 10 ^ digits.length + placeValue digits

/-- The bytes of a plain number: one digit at least, and nothing but digits. -/
structure IsNumeral (value : List UInt8) (n : Nat) : Prop where
  ne_nil : value ≠ []
  digits : ∀ b ∈ value, 48 ≤ b.toNat ∧ b.toNat ≤ 57
  placeValue_eq : placeValue value = n

/-- The character of a byte has its number. -/
theorem toNat_ofUInt8 (b : UInt8) : (Char.ofUInt8 b).toNat = b.toNat := rfl

theorem ofUInt8_inj {b c : UInt8} : Char.ofUInt8 b = Char.ofUInt8 c ↔ b = c := by
  rw [← Char.toNat_inj, toNat_ofUInt8, toNat_ofUInt8, UInt8.toNat_inj]

theorem isDigit_ofUInt8 (b : UInt8) :
    (Char.ofUInt8 b).isDigit = true ↔ 48 ≤ b.toNat ∧ b.toNat ≤ 57 := by
  rw [Char.isDigit, Bool.and_eq_true, decide_eq_true_iff, decide_eq_true_iff, ge_iff_le,
    UInt32.le_iff_toNat_le, UInt32.le_iff_toNat_le]
  exact Iff.rfl

/-- Digits read from the left have the value of their places. -/
theorem ofDigitChars_map_ofUInt8 (value : List UInt8) :
    Nat.ofDigitChars 10 (value.map Char.ofUInt8) 0 = placeValue value := by
  induction value with
  | nil => rfl
  | cons b digits ih =>
    rw [List.map_cons, Nat.ofDigitChars_cons, Nat.ofDigitChars_eq_ofDigitChars_zero, ih,
      List.length_map, Nat.mul_zero, Nat.zero_add, Nat.mul_comm]
    rfl

/-- The bytes that are read as a number. -/
theorem nat?_map_ofUInt8_eq_some_iff {value : List UInt8} {n : Nat} :
    Decimal.nat? (value.map Char.ofUInt8) = some n ↔ IsNumeral value n := by
  rw [Decimal.nat?_eq_some_iff, ofDigitChars_map_ofUInt8, List.forall_mem_map]
  simp only [isDigit_ofUInt8, ne_eq, List.map_eq_nil_iff]
  constructor
  · rintro ⟨hnil, hdigits, hvalue⟩
    exact ⟨hnil, hdigits, hvalue⟩
  · rintro ⟨hnil, hdigits, hvalue⟩
    exact ⟨hnil, hdigits, hvalue⟩

/-- A number behind a byte, as it is found by the characters. -/
theorem exists_map_ofUInt8_eq_cons_iff {value : List UInt8} {sign : UInt8} {n : Nat} :
    (∃ t, value.map Char.ofUInt8 = Char.ofUInt8 sign :: t ∧ Decimal.nat? t = some n) ↔
      ∃ digits, value = sign :: digits ∧ IsNumeral digits n := by
  constructor
  · rintro ⟨t, hvalue, hn⟩
    obtain ⟨b, digits, rfl, hsign, rfl⟩ := List.map_eq_cons_iff.1 hvalue
    rw [ofUInt8_inj.1 hsign]
    exact ⟨digits, rfl, nat?_map_ofUInt8_eq_some_iff.1 hn⟩
  · rintro ⟨digits, rfl, hn⟩
    exact ⟨digits.map Char.ofUInt8, rfl, nat?_map_ofUInt8_eq_some_iff.2 hn⟩

/-! ## Values that declare a length -/

/-- Digits are text. -/
theorem IsNumeral.all_isHeaderText {value : List UInt8} {n : Nat} (h : IsNumeral value n) :
    value.all isHeaderText = true := by
  rw [List.all_eq_true]
  intro b hb
  have hdigit := h.digits b hb
  simp only [isHeaderText, Bool.or_eq_true, Bool.and_eq_true, decide_eq_true_iff,
    UInt8.le_iff_toNat_le]
  right
  constructor
  · show 32 ≤ b.toNat
    omega
  · show b.toNat ≤ 126
    omega

/-- A value is a numeral, perhaps behind a plus sign, or zero behind a minus sign. -/
def IsSignedNumeral (value : List UInt8) (n : Nat) : Prop :=
  IsNumeral value n ∨ (∃ digits, value = 43 :: digits ∧ IsNumeral digits n) ∨
    n = 0 ∧ ∃ digits, value = 45 :: digits ∧ IsNumeral digits 0

/-- Numbers that are not negative are read from just those values. -/
theorem signed?_map_ofUInt8_eq_some_iff {value : List UInt8} {n : Nat} :
    Decimal.signed? (value.map Char.ofUInt8) = some (n : Int) ↔ IsSignedNumeral value n := by
  have hplus : Char.ofUInt8 43 = '+' := rfl
  have hminus : Char.ofUInt8 45 = '-' := rfl
  rw [Decimal.signed?_eq_some_iff, ← hminus]
  constructor
  · rintro (⟨m, hm, hmn⟩ | ⟨t, m, ht, hm, hmn⟩)
    · obtain rfl : m = n := by omega
      rw [Decimal.unsigned?_eq_some_iff, ← hplus, nat?_map_ofUInt8_eq_some_iff,
        exists_map_ofUInt8_eq_cons_iff] at hm
      exact hm.imp_right .inl
    · -- only zero is its own negative
      obtain ⟨rfl, rfl⟩ : m = 0 ∧ n = 0 := by omega
      exact .inr (.inr ⟨rfl, exists_map_ofUInt8_eq_cons_iff.1 ⟨t, ht, hm⟩⟩)
  · rintro (h | h | ⟨rfl, h⟩)
    · exact .inl ⟨n, Decimal.unsigned?_eq_some_iff.2 (.inl (nat?_map_ofUInt8_eq_some_iff.2 h)), rfl⟩
    · refine .inl ⟨n, Decimal.unsigned?_eq_some_iff.2 (.inr ?_), rfl⟩
      rw [← hplus]
      exact exists_map_ofUInt8_eq_cons_iff.2 h
    · obtain ⟨t, ht, hm⟩ := exists_map_ofUInt8_eq_cons_iff.2 h
      exact .inr ⟨t, 0, ht, hm, rfl⟩

/-- Signs are text as digits are. -/
theorem IsSignedNumeral.all_isHeaderText {value : List UInt8} {n : Nat}
    (h : IsSignedNumeral value n) : value.all isHeaderText = true := by
  rcases h with h | ⟨digits, rfl, h⟩ | ⟨-, digits, rfl, h⟩
  · exact h.all_isHeaderText
  · rw [List.all_cons, h.all_isHeaderText]
    rfl
  · rw [List.all_cons, h.all_isHeaderText]
    rfl

/-- The values that declare a length.  The largest one is the largest integer of sixty-four bits with
a sign. -/
theorem declaredLength?_eq_some_iff {value : List UInt8} {n : Nat} :
    declaredLength? value = some n ↔ n ≤ 9223372036854775807 ∧ IsSignedNumeral value n := by
  rw [← signed?_map_ofUInt8_eq_some_iff]
  unfold declaredLength?
  constructor
  · intro h
    split at h
    · split at h
      · next i hi =>
        split at h
        · next hbound =>
          obtain ⟨hpos, hlt⟩ := hbound
          obtain rfl := Option.some.inj h
          rw [Int.toNat_of_nonneg hpos]
          refine ⟨?_, hi⟩
          unfold lengthBound at hlt
          omega
        · cases h
      · cases h
    · cases h
  · rintro ⟨hlt, hn⟩
    have htext := (signed?_map_ofUInt8_eq_some_iff.1 hn).all_isHeaderText
    have hbound : 0 ≤ (n : Int) ∧ (n : Int) < lengthBound := by
      unfold lengthBound
      omega
    simp only [htext, hn, hbound, and_self, if_true, Int.toNat_natCast]

/-- **Which header values declare a length.**  A plain number below the sixty-third power of two
does, and so do such a number behind a plus sign and zero behind a minus sign, but nothing else: any
other value is an entity that is too large, and one event of level error tells of it. -/
theorem declaredLength_accepts (value : List UInt8) :
    (∀ n : Nat, declaredLength value = (.ok n, []) ↔
      n ≤ 9223372036854775807 ∧ IsSignedNumeral value n) ∧
      ((∃ n : Nat, declaredLength value = (.ok n, [])) ∨
        declaredLength value = (.error .invalidLength, [.invalidLength value])) ∧
      BodyError.invalidLength.fault = .entityTooLarge "invalid Content-Length" ∧
      (Event.invalidLength value).level = .error := by
  refine ⟨fun n => ?_, ?_, rfl, rfl⟩
  · have hiff : declaredLength value = (.ok n, []) ↔ declaredLength? value = some n := by
      unfold declaredLength
      cases declaredLength? value <;> simp
    rw [hiff, declaredLength?_eq_some_iff]
  · unfold declaredLength
    cases declaredLength? value with
    | some n => exact .inl ⟨n, rfl⟩
    | none => exact .inr rfl

/-- Five behind a plus sign and zero behind a minus sign are no plain numbers, and declare a
length. -/
theorem declaredLength_signed :
    declaredLength [43, 53] = (.ok 5, []) ∧ (∀ n, ¬ IsNumeral [43, 53] n) ∧
      declaredLength [45, 48] = (.ok 0, []) ∧ ∀ n, ¬ IsNumeral [45, 48] n := by
  refine ⟨rfl, fun n h => ?_, rfl, fun n h => ?_⟩
  · exact absurd (h.digits 43 List.mem_cons_self) (by decide)
  · exact absurd (h.digits 45 List.mem_cons_self) (by decide)

end DavGateway
