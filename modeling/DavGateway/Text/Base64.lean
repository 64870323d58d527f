/-
# Base64

Three bytes become four symbols of the standard alphabet; a last group of one
or two bytes is padded.  There are no line breaks.

* `decode?_encode` : what was encoded is read back exactly.
* `encode_append` : whole groups are encoded apart from what follows them.
-/

namespace DavGateway.Base64

/-! ## Symbols -/

/-- The symbol of a number below sixty-four. -/
def symbol (n : Nat) : UInt8 :=
  if n < 26 then UInt8.ofNat (65 + n)
  else if n < 52 then UInt8.ofNat (71 + n)
  else if n < 62 then UInt8.ofNat (n - 4)
  else if n = 62 then 43
  else 47

/-- The number that a symbol stands for. -/
def value? (b : UInt8) : Option Nat :=
  let n := b.toNat
  if 65 ≤ n ∧ n ≤ 90 then some (n - 65)
  else if 97 ≤ n ∧ n ≤ 122 then some (n - 71)
  else if 48 ≤ n ∧ n ≤ 57 then some (n + 4)
  else if n = 43 then some 62
  else if n = 47 then some 63
  else none

/-- The padding of a last group. -/
def pad : UInt8 := 61

theorem value?_symbol : ∀ n < 64, value? (symbol n) = some n := by decide

theorem value?_pad : value? pad = none := by decide

/-! ## Encoding -/

/-- The symbols of three bytes. -/
def group (a b c : UInt8) : List UInt8 :=
  let n := a.toNat * 65536 + b.toNat * 256 + c.toNat
  [symbol (n / 262144), symbol (n / 4096 % 64), symbol (n / 64 % 64), symbol (n % 64)]

/-- The encoding of a sequence of bytes. -/
def encode : List UInt8 → List UInt8
  | a :: b :: c :: rest => group a b c ++ encode rest
  | [a, b] => (group a b 0).take 3 ++ [pad]
  | [a] => (group a 0 0).take 2 ++ [pad, pad]
  | [] => []

/-- Whole groups are encoded apart from what follows them. -/
theorem encode_append (whole rest : List UInt8) (h : 3 ∣ whole.length) :
    encode (whole ++ rest) = encode whole ++ encode rest := by
  fun_induction encode whole with
  | case1 a b c whole ih =>
    simp only [List.length_cons] at h
    simp only [List.cons_append, encode, ih (by omega), List.append_assoc]
  | case2 => simp at h
  | case3 => simp at h
  | case4 => simp

/-! ## Decoding -/

/-- The bytes of four symbols. -/
def ungroup (w x y z : Nat) : List UInt8 :=
  let n := w * 262144 + x * 4096 + y * 64 + z
  [UInt8.ofNat (n / 65536), UInt8.ofNat (n / 256), UInt8.ofNat n]

/-- The bytes behind four symbols that may be the last ones. -/
def decodeLast? (w x y z : UInt8) : Option (List UInt8) := do
  let w ← value? w
  let x ← value? x
  match value? y, value? z with
  | some y, some z => some (ungroup w x y z)
  | some y, none => if z = pad then some ((ungroup w x y 0).take 2) else none
  | none, _ => if y = pad ∧ z = pad then some ((ungroup w x 0 0).take 1) else none

/-- The bytes behind an encoding. -/
def decode? : List UInt8 → Option (List UInt8)
  | [] => some []
  | w :: x :: y :: z :: rest =>
    if rest = [] then decodeLast? w x y z
    else do
      let bytes ← decode? rest
      some (ungroup (← value? w) (← value? x) (← value? y) (← value? z) ++ bytes)
  | _ => none

theorem ofNat_eq_of_mod {n : Nat} {b : UInt8} (h : n % 256 = b.toNat) : UInt8.ofNat n = b :=
  UInt8.toNat_inj.1 (by simpa using h)

/-- Three bytes come back from their symbols. -/
theorem ungroup_group (a b c : UInt8) :
    let n := a.toNat * 65536 + b.toNat * 256 + c.toNat
    ungroup (n / 262144) (n / 4096 % 64) (n / 64 % 64) (n % 64) = [a, b, c] := by
  have ha := a.toNat_lt
  have hb := b.toNat_lt
  have hc := c.toNat_lt
  simp only [ungroup, List.cons.injEq, and_true]
  refine ⟨?_, ?_, ?_⟩ <;> apply ofNat_eq_of_mod <;> omega

/-- The four numbers behind the symbols of three bytes. -/
theorem value?_group (a b c : UInt8) :
    let n := a.toNat * 65536 + b.toNat * 256 + c.toNat
    value? (symbol (n / 262144)) = some (n / 262144) ∧
      value? (symbol (n / 4096 % 64)) = some (n / 4096 % 64) ∧
      value? (symbol (n / 64 % 64)) = some (n / 64 % 64) ∧
      value? (symbol (n % 64)) = some (n % 64) := by
  have ha := a.toNat_lt
  have hb := b.toNat_lt
  have hc := c.toNat_lt
  refine ⟨?_, ?_, ?_, ?_⟩ <;> apply value?_symbol <;> omega

/-- A whole group is read, whatever follows it. -/
theorem decode?_group_append (a b c : UInt8) (rest : List UInt8) :
    decode? (group a b c ++ rest) = (decode? rest).map ([a, b, c] ++ ·) := by
  obtain ⟨hw, hx, hy, hz⟩ := value?_group a b c
  have whole := ungroup_group a b c
  simp only [group, List.cons_append, List.nil_append, decode?]
  split
  · subst rest
    simp [decodeLast?, hw, hx, hy, hz, whole, decode?]
  · cases decode? rest <;> simp [hw, hx, hy, hz, whole]

/-- What was encoded is read back exactly. -/
theorem decode?_encode (bytes : List UInt8) : decode? (encode bytes) = some bytes := by
  fun_induction encode bytes with
  | case1 a b c rest ih => rw [decode?_group_append, ih]; rfl
  | case2 a b =>
    obtain ⟨hw, hx, hy, -⟩ := value?_group a b 0
    have whole := ungroup_group a b 0
    simp only [UInt8.toNat_zero, Nat.add_zero] at hw hx hy whole
    have tail : (a.toNat * 65536 + b.toNat * 256) % 64 = 0 := by omega
    rw [tail] at whole
    simp [group, decode?, decodeLast?, hw, hx, hy, value?_pad, whole]
  | case3 a =>
    obtain ⟨hw, hx, -, -⟩ := value?_group a 0 0
    have whole := ungroup_group a 0 0
    simp only [UInt8.toNat_zero, Nat.zero_mul, Nat.add_zero] at hw hx whole
    have tail : a.toNat * 65536 / 64 % 64 = 0 ∧ a.toNat * 65536 % 64 = 0 := by omega
    rw [tail.1, tail.2] at whole
    simp [group, decode?, decodeLast?, hw, hx, value?_pad, whole]
  | case4 => rfl

end DavGateway.Base64
