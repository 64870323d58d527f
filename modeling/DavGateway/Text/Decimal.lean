/-
# Decimal numbers

Writing and reading numbers in decimal.  `digits` has no sign and no leading
zero; the readers take any non-empty run of ASCII digits, leading zeros
included, with the signs that their names allow.

* `nat?_digits`, `signed?_intText` : reading what was written gives the number back.
* `nat?_eq_some_iff`, `unsigned?_eq_some_iff`, `signed?_eq_some_iff` : all that is read.
-/

namespace DavGateway.Decimal

/-- The decimal digits of `n`, most significant first. -/
def digits (n : Nat) : List Char := Nat.toDigits 10 n

/-- The decimal text of `n`. -/
def text (n : Nat) : String := String.ofList (digits n)

/-- The decimal text of an integer: a minus sign if it is negative, then its digits. -/
def intText (n : Int) : String :=
  if n < 0 then "-" ++ text n.natAbs else text n.natAbs

/-- Reads a non-empty run of digits and nothing else. -/
def nat? (s : List Char) : Option Nat :=
  if s ≠ [] ∧ s.all Char.isDigit then some (Nat.ofDigitChars 10 s 0) else none

/-- Reads digits after at most one plus sign. -/
def unsigned? : List Char → Option Nat
  | '+' :: s => nat? s
  | s => nat? s

/-- Reads digits after at most one sign of either kind. -/
def signed? : List Char → Option Int
  | '-' :: s => (nat? s).map fun n : Nat => -(n : Int)
  | s => (unsigned? s).map fun n : Nat => (n : Int)

/-- Digits are never missing. -/
theorem digits_ne_nil (n : Nat) : digits n ≠ [] := Nat.toDigits_ne_nil

/-- Every digit is a digit. -/
theorem isDigit_of_mem_digits {n : Nat} {c : Char} (h : c ∈ digits n) : c.isDigit = true :=
  Nat.isDigit_of_mem_toDigits (by decide) (by decide) h

/-- Reading what `digits` writes gives the number back. -/
theorem nat?_digits (n : Nat) : nat? (digits n) = some n := by
  have h : (digits n).all Char.isDigit = true :=
    List.all_eq_true.2 fun _ hc => isDigit_of_mem_digits hc
  simp only [nat?, digits_ne_nil, h, ne_eq, not_false_iff, and_self, if_true]
  exact congrArg some Nat.ofDigitChars_ten_toDigits

/-- What is read as a number is digits, at least one of them. -/
theorem nat?_eq_some_iff {s : List Char} {n : Nat} :
    nat? s = some n ↔ s ≠ [] ∧ (∀ c ∈ s, c.isDigit = true) ∧ Nat.ofDigitChars 10 s 0 = n := by
  simp [nat?, and_assoc]

/-- No number begins with anything but a digit. -/
theorem nat?_cons_ne_some {c : Char} (hc : c.isDigit = false) (s : List Char) (n : Nat) :
    nat? (c :: s) ≠ some n := by
  intro h
  have hdigit := (nat?_eq_some_iff.1 h).2.1 c List.mem_cons_self
  rw [hc] at hdigit
  cases hdigit

/-- A plus sign may stand in front of digits. -/
theorem unsigned?_eq_some_iff {s : List Char} {n : Nat} :
    unsigned? s = some n ↔ nat? s = some n ∨ ∃ t, s = '+' :: t ∧ nat? t = some n := by
  unfold unsigned?
  split
  · next t =>
    constructor
    · intro h
      exact .inr ⟨t, rfl, h⟩
    · rintro (h | ⟨t', ht, h⟩)
      · exact absurd h (nat?_cons_ne_some (by decide) t n)
      · rwa [(List.cons.inj ht).2]
  · next hplus =>
    constructor
    · exact .inl
    · rintro (h | ⟨t, rfl, -⟩)
      · exact h
      · exact absurd rfl (hplus t)

/-- Digits are read without a sign in front of them. -/
theorem unsigned?_digits (n : Nat) : unsigned? (digits n) = some n :=
  unsigned?_eq_some_iff.2 (.inl (nat?_digits n))

/-! ## Integers -/

/-- The text of an integer has digits, and perhaps a minus sign. -/
theorem eq_or_isDigit_of_mem_intText {n : Int} {c : Char} (h : c ∈ (intText n).toList) :
    c = '-' ∨ c.isDigit = true := by
  unfold intText at h
  split at h
  · rw [String.toList_append, List.mem_append] at h
    rcases h with hsign | hdigit
    · exact .inl (by simpa using hsign)
    · exact .inr (isDigit_of_mem_digits (by simpa [text] using hdigit))
  · exact .inr (isDigit_of_mem_digits (by simpa [text] using h))

/-- A minus sign may stand in front of digits as well. -/
theorem signed?_eq_some_iff {s : List Char} {i : Int} :
    signed? s = some i ↔
      (∃ n : Nat, unsigned? s = some n ∧ (n : Int) = i) ∨
        ∃ t n, s = '-' :: t ∧ nat? t = some n ∧ -(n : Int) = i := by
  unfold signed?
  split
  · next t =>
    rw [Option.map_eq_some_iff]
    constructor
    · rintro ⟨n, hn, hi⟩
      exact .inr ⟨t, n, rfl, hn, hi⟩
    · rintro (⟨n, hn, -⟩ | ⟨t', n, ht, hn, hi⟩)
      · -- no number begins with a minus sign
        rcases unsigned?_eq_some_iff.1 hn with hplain | ⟨t', ht, -⟩
        · exact absurd hplain (nat?_cons_ne_some (by decide) t n)
        · exact absurd (List.cons.inj ht).1 (by decide)
      · exact ⟨n, by rwa [(List.cons.inj ht).2], hi⟩
  · next hminus =>
    rw [Option.map_eq_some_iff]
    constructor
    · exact .inl
    · rintro (h | ⟨t, n, rfl, -⟩)
      · exact h
      · exact absurd rfl (hminus t)

/-- Reading what `intText` writes gives the integer back. -/
theorem signed?_intText (n : Int) : signed? (intText n).toList = some n := by
  rw [signed?_eq_some_iff]
  unfold intText
  split
  · next hneg =>
    have hcons : ("-" ++ text n.natAbs).toList = '-' :: digits n.natAbs := by simp [text]
    exact .inr ⟨_, n.natAbs, hcons, nat?_digits _, by omega⟩
  · next hpos =>
    rw [text, String.toList_ofList]
    exact .inl ⟨n.natAbs, unsigned?_digits _, by omega⟩

end DavGateway.Decimal
