/-
# Characters of one byte in UTF-8

The bytes of longer characters are all high ones, so a character of one byte is
seen among the bytes of a text: where it stands, the text can be cut, and what
is spelled with such characters is found in the text if it is found in the
bytes.

* `decode?_eq_some_iff` : what is read is the text of the bytes.
* `encode_eq_append_cons` : bytes are cut at such a character where the text is.
* `infix_of_encode_infix` : a text of such characters is found by its bytes.
-/
import DavGateway.Text.Utf8

namespace DavGateway.Utf8

/-! ## Reading and writing -/

theorem encode_cons (c : Char) (s : List Char) :
    encode (c :: s) = String.utf8EncodeChar c ++ encode s :=
  List.flatMap_cons

/-- What is read is the text of the bytes. -/
theorem decode?_eq_some_iff {bytes : List UInt8} {s : List Char} :
    decode? bytes = some s ↔ encode s = bytes := by
  constructor
  · intro h
    -- bytes that are read are those of some text, and reading gives that text
    have hvalid : bytes.toByteArray.IsValidUTF8 := by
      rw [← ByteArray.isSome_utf8Decode?_iff]
      unfold decode? at h
      cases hread : bytes.toByteArray.utf8Decode? with
      | none => simp [hread] at h
      | some text => rfl
    obtain ⟨t, ht⟩ := hvalid
    have hbytes : bytes = encode t := List.toByteArray_inj.1 ht
    rw [hbytes, decode?_encode] at h
    rw [hbytes, Option.some.inj h]
  · rintro rfl
    exact decode?_encode s

/-- Different texts have different bytes. -/
theorem encode_inj {s t : List Char} : encode s = encode t ↔ s = t := by
  rw [← decode?_eq_some_iff, decode?_encode, Option.some.injEq, eq_comm]

/-- Only the empty text has no bytes. -/
theorem encode_eq_nil_iff {s : List Char} : encode s = [] ↔ s = [] := by
  rw [← encode_nil, encode_inj]

/-! ## Characters of one byte -/

/-- A character of one byte. -/
theorem utf8EncodeChar_ascii {c : Char} (hc : c.toNat < 128) :
    String.utf8EncodeChar c = [UInt8.ofNat c.toNat] := by
  have h : c.val.toNat ≤ 127 := Nat.le_of_lt_succ hc
  rw [String.utf8EncodeChar, if_pos h]
  rfl

/-- Every byte of a character of several bytes is a high one. -/
theorem le_toNat_of_mem_utf8EncodeChar {c : Char} (hc : 128 ≤ c.toNat) :
    ∀ b ∈ String.utf8EncodeChar c, 128 ≤ b.toNat := by
  have high : ∀ n k : Nat, 128 ≤ k → n + k < 256 → 128 ≤ (UInt8.ofNat (n + k)).toNat := by
    intro n k hk hn
    rw [UInt8.toNat_ofNat', Nat.mod_eq_of_lt hn]
    omega
  have hlow : ¬ c.val.toNat ≤ 127 := Nat.not_le_of_lt hc
  rw [String.utf8EncodeChar, if_neg hlow]
  -- two, three or four bytes, each of them a remainder with a high mark added
  split
  · simp only [List.forall_mem_cons]
    exact ⟨high _ _ (by decide) (by omega), high _ _ (by decide) (by omega), List.forall_mem_nil _⟩
  split
  · simp only [List.forall_mem_cons]
    exact ⟨high _ _ (by decide) (by omega), high _ _ (by decide) (by omega),
      high _ _ (by decide) (by omega), List.forall_mem_nil _⟩
  · simp only [List.forall_mem_cons]
    exact ⟨high _ _ (by decide) (by omega), high _ _ (by decide) (by omega),
      high _ _ (by decide) (by omega), high _ _ (by decide) (by omega), List.forall_mem_nil _⟩

/-- The byte of a character of one byte stands in no other character. -/
theorem eq_of_mem_utf8EncodeChar {c d : Char} (hc : c.toNat < 128)
    (h : UInt8.ofNat c.toNat ∈ String.utf8EncodeChar d) : d = c := by
  have hbyte : (UInt8.ofNat c.toNat).toNat = c.toNat := by
    rw [UInt8.toNat_ofNat', Nat.mod_eq_of_lt (by omega)]
  by_cases hd : d.toNat < 128
  · rw [utf8EncodeChar_ascii hd, List.mem_singleton, ← UInt8.toNat_inj, hbyte, UInt8.toNat_ofNat',
      Nat.mod_eq_of_lt (by omega)] at h
    exact Char.toNat_inj.1 h.symm
  · have hhigh := le_toNat_of_mem_utf8EncodeChar (by omega) _ h
    omega

/-! ## Finding them among the bytes of a text -/

/-- The byte of such a character stands among the bytes of a text if the character is in it. -/
theorem mem_encode_iff {c : Char} (hc : c.toNat < 128) {s : List Char} :
    UInt8.ofNat c.toNat ∈ encode s ↔ c ∈ s := by
  constructor
  · intro h
    obtain ⟨d, hd, hbyte⟩ := List.mem_flatMap.1 h
    rwa [← eq_of_mem_utf8EncodeChar hc hbyte]
  · intro h
    exact List.mem_flatMap.2 ⟨c, h, by simp [utf8EncodeChar_ascii hc]⟩

/-- Bytes are cut at a character of one byte where the text is cut at it. -/
theorem encode_eq_append_cons {c : Char} (hc : c.toNat < 128) {s : List Char}
    {before after : List UInt8} (h : encode s = before ++ UInt8.ofNat c.toNat :: after) :
    ∃ front back, s = front ++ c :: back ∧ encode front = before ∧ encode back = after := by
  induction s generalizing before with
  | nil => simp at h
  | cons d s ih =>
    rw [encode_cons] at h
    rcases List.append_eq_append_iff.1 h with ⟨middle, rfl, hs⟩ | ⟨middle, hd, hs⟩
    · obtain ⟨front, back, rfl, hfront, hback⟩ := ih hs
      exact ⟨d :: front, back, rfl, by rw [encode_cons, hfront], hback⟩
    · cases middle with
      | nil =>
        rw [List.append_nil] at hd
        obtain ⟨front, back, rfl, hfront, hback⟩ := @ih [] hs.symm
        exact ⟨d :: front, back, rfl, by rw [encode_cons, hfront, hd, List.append_nil], hback⟩
      | cons b middle =>
        -- the byte stands in the first character, which is therefore `c`
        rw [List.cons_append, List.cons.injEq] at hs
        obtain ⟨rfl, hs⟩ := hs
        obtain rfl : d = c := eq_of_mem_utf8EncodeChar hc (by rw [hd]; simp)
        rw [utf8EncodeChar_ascii hc] at hd
        obtain ⟨rfl, rfl⟩ : before = [] ∧ middle = [] := by
          simpa [List.singleton_eq_append_iff] using hd
        exact ⟨[], s, rfl, rfl, hs.symm⟩

/-- A text of characters of one byte begins another text if its bytes do. -/
theorem prefix_of_encode_prefix {cs s : List Char} (hcs : ∀ c ∈ cs, c.toNat < 128)
    (h : encode cs <+: encode s) : cs <+: s := by
  induction cs generalizing s with
  | nil => exact List.nil_prefix
  | cons c cs ih =>
    rw [List.forall_mem_cons] at hcs
    obtain ⟨after, hafter⟩ := h
    have hcut : encode s = [] ++ UInt8.ofNat c.toNat :: (encode cs ++ after) := by
      rw [← hafter, encode_cons, utf8EncodeChar_ascii hcs.1]
      rfl
    obtain ⟨front, back, rfl, hfront, hback⟩ := encode_eq_append_cons hcs.1 hcut
    rw [encode_eq_nil_iff.1 hfront, List.nil_append, List.prefix_cons_inj]
    exact ih hcs.2 ⟨after, hback.symm⟩

/-- A text of characters of one byte stands in another text if its bytes do. -/
theorem infix_of_encode_infix {cs s : List Char} (hcs : ∀ c ∈ cs, c.toNat < 128)
    (h : encode cs <:+: encode s) : cs <:+: s := by
  cases cs with
  | nil => exact List.nil_infix
  | cons c cs =>
    rw [List.forall_mem_cons] at hcs
    obtain ⟨before, after, hs⟩ := h
    have hcut : encode s = before ++ UInt8.ofNat c.toNat :: (encode cs ++ after) := by
      rw [← hs, encode_cons, utf8EncodeChar_ascii hcs.1]
      simp
    obtain ⟨front, back, rfl, -, hback⟩ := encode_eq_append_cons hcs.1 hcut
    obtain ⟨rest, rfl⟩ := prefix_of_encode_prefix hcs.2 ⟨after, hback.symm⟩
    exact ⟨front, rest, by simp⟩

end DavGateway.Utf8
