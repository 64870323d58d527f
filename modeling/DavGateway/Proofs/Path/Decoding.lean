/-
# Decoding names

No escape reaches over a slash, so a joined path is decoded segment by segment.
What is decoded from a name need not be a name: an escape can spell a dot or a
slash.  Where none does, a name stays a name.

* `decode?_joined` : joined segments are decoded one by one.
* `mem_or_spells_of_mem_decodeBytes` : a byte that is read stood there, or is spelled.
* `isName_of_decode?` : names without escapes of dots and slashes are decoded to names.
-/
import DavGateway.Proofs.Path.Join
import DavGateway.Proofs.Text.Ascii

namespace DavGateway.Percent

/-! ## Escapes -/

/-- The byte that a percent sign with two digits behind it spells. -/
def escapeValue? (high low : UInt8) : Option UInt8 :=
  (hexValue? high).bind fun u => (hexValue? low).map fun v => 16 * u + v

/-- Whether a byte in front of others begins an escape. -/
def StartsEscape (b : UInt8) (rest : List UInt8) : Prop :=
  b = 37 ∧ ∃ high low more value, rest = high :: low :: more ∧ escapeValue? high low = some value

theorem escapeValue?_eq_some_iff {high low value : UInt8} :
    escapeValue? high low = some value ↔
      ∃ u v, hexValue? high = some u ∧ hexValue? low = some v ∧ 16 * u + v = value := by
  simp only [escapeValue?, Option.bind_eq_some_iff, Option.map_eq_some_iff]
  constructor
  · rintro ⟨u, hu, v, hv, h⟩
    exact ⟨u, v, hu, hv, h⟩
  · rintro ⟨u, v, hu, hv, h⟩
    exact ⟨u, hu, v, hv, h⟩

/-- A slash is no digit of an escape. -/
theorem escapeValue?_slash (b : UInt8) :
    escapeValue? 47 b = none ∧ escapeValue? b 47 = none := by
  have hslash : hexValue? 47 = none := by decide
  simp [escapeValue?, hslash]

/-- An escape is read as the byte it spells. -/
theorem decodeBytes_of_escapeValue? {high low value : UInt8}
    (h : escapeValue? high low = some value) (rest : List UInt8) :
    decodeBytes (37 :: high :: low :: rest) = value :: decodeBytes rest := by
  obtain ⟨u, v, hu, hv, rfl⟩ := escapeValue?_eq_some_iff.1 h
  exact decodeBytes_escape hu hv rest

/-- A byte that begins no escape is read as it is. -/
theorem decodeBytes_cons_of_not_startsEscape {b : UInt8} {rest : List UInt8}
    (h : ¬ StartsEscape b rest) : decodeBytes (b :: rest) = b :: decodeBytes rest := by
  by_cases hb : b = 37
  · rcases rest with _ | ⟨high, _ | ⟨low, more⟩⟩
    · rfl
    · rfl
    · rw [decodeBytes, if_pos hb]
      split
      · next u v hu hv =>
        exact absurd ⟨hb, high, low, more, _, rfl, escapeValue?_eq_some_iff.2 ⟨u, v, hu, hv, rfl⟩⟩ h
      · rfl
  · exact decodeBytes_cons hb rest

/-- Bytes are read from the front: an escape, or a byte that begins none. -/
theorem escape_induction {motive : List UInt8 → Prop} (nil : motive [])
    (escape : ∀ high low value rest, escapeValue? high low = some value → motive rest →
      motive (37 :: high :: low :: rest))
    (plain : ∀ b rest, ¬ StartsEscape b rest → motive rest → motive (b :: rest))
    (bytes : List UInt8) : motive bytes := by
  induction hlength : bytes.length using Nat.strongRecOn generalizing bytes with
  | ind length ih =>
    subst hlength
    cases bytes with
    | nil => exact nil
    | cons b rest =>
      by_cases hstart : StartsEscape b rest
      · obtain ⟨rfl, high, low, more, value, rfl, hvalue⟩ := hstart
        refine escape high low value more hvalue (ih more.length ?_ more rfl)
        simp only [List.length_cons]
        omega
      · exact plain b rest hstart (ih rest.length (Nat.lt_succ_self _) rest rfl)

/-! ## Decoding at slashes -/

/-- No escape reaches over a slash. -/
theorem decodeBytes_append_slash (front back : List UInt8) :
    decodeBytes (front ++ 47 :: back) = decodeBytes front ++ 47 :: decodeBytes back := by
  induction front using escape_induction with
  | nil => exact decodeBytes_cons (by decide) back
  | escape high low value rest hvalue ih =>
    rw [decodeBytes_of_escapeValue? hvalue, List.cons_append, List.cons_append, List.cons_append,
      decodeBytes_of_escapeValue? hvalue, ih, List.cons_append]
  | plain b rest hstart ih =>
    -- with too few bytes before the slash, the slash would have to be a digit
    have hstart' : ¬ StartsEscape b (rest ++ 47 :: back) := by
      rintro ⟨hb, high, low, more, value, hrest, hvalue⟩
      rcases rest with _ | ⟨c, _ | ⟨d, rest⟩⟩
      · obtain ⟨rfl, -⟩ : 47 = high ∧ back = low :: more := by simpa using hrest
        simp [(escapeValue?_slash low).1] at hvalue
      · obtain ⟨-, rfl, -⟩ : c = high ∧ 47 = low ∧ back = more := by simpa using hrest
        simp [(escapeValue?_slash high).2] at hvalue
      · obtain ⟨rfl, rfl, -⟩ : c = high ∧ d = low ∧ rest ++ 47 :: back = more := by
          simpa using hrest
        exact hstart ⟨hb, c, d, rest, value, rfl, hvalue⟩
    rw [decodeBytes_cons_of_not_startsEscape hstart, List.cons_append,
      decodeBytes_cons_of_not_startsEscape hstart', ih, List.cons_append]

/-- What a text decodes to. -/
theorem decode?_eq_some_iff {s t : List Char} :
    decode? s = some t ↔ Utf8.encode t = decodeBytes (Utf8.encode s) :=
  Utf8.decode?_eq_some_iff

theorem decode?_nil : decode? [] = some [] := decode?_eq_some_iff.2 rfl

/-- The texts on both sides of a slash are decoded by themselves. -/
theorem decode?_append_slash (front back : List Char) :
    decode? (front ++ '/' :: back) =
      (decode? front).bind fun f => (decode? back).map fun b => f ++ '/' :: b := by
  have hslash : ∀ s, Utf8.encode ('/' :: s) = 47 :: Utf8.encode s := fun _ => rfl
  apply Option.ext
  intro t
  simp only [Option.bind_eq_some_iff, Option.map_eq_some_iff, decode?_eq_some_iff,
    Utf8.encode_append, hslash, decodeBytes_append_slash]
  constructor
  · intro h
    obtain ⟨f, b, rfl, hf, hb⟩ := Utf8.encode_eq_append_cons (c := '/') (by decide) h
    exact ⟨f, hf, b, hb, rfl⟩
  · rintro ⟨f, hf, b, hb, rfl⟩
    rw [Utf8.encode_append, hslash, hf, hb]

/-- A slash in front is kept. -/
theorem decode?_slash_cons (s : List Char) : decode? ('/' :: s) = (decode? s).map ('/' :: ·) := by
  simpa [decode?_nil] using decode?_append_slash [] s

/-- A segment and what follows it are decoded by themselves. -/
theorem decode?_append {rest : List Char} (hrest : Path.Boundary rest) (s : List Char) :
    decode? (s ++ rest) = (decode? s).bind fun front => (decode? rest).map (front ++ ·) := by
  rcases hrest.eq_nil_or_cons with rfl | ⟨back, rfl⟩
  · simp [decode?_nil]
  · rw [decode?_append_slash, decode?_slash_cons]
    simp [Function.comp_def]

/-- Joined segments are decoded one by one. -/
theorem decode?_joined (segs : List (List Char)) (directory : Bool) :
    decode? (Path.join segs ++ Path.slashIf directory) =
      (segs.mapM decode?).map fun texts => Path.join texts ++ Path.slashIf directory := by
  induction segs with
  | nil =>
    cases directory with
    | false => exact decode?_nil
    | true => exact decode?_slash_cons []
  | cons s segs ih =>
    rw [Path.join_cons, List.cons_append, List.cons_append, decode?_slash_cons, List.append_assoc,
      decode?_append (Path.boundary_join_append (Path.boundary_slashIf _) _), ih, List.mapM_cons]
    cases decode? s with
    | none => rfl
    | some text =>
      cases segs.mapM decode? with
      | none => rfl
      | some texts => simp

/-! ## What escapes can spell -/

/-- Whether an escape among bytes spells the byte. -/
def Spells (bytes : List UInt8) (value : UInt8) : Prop :=
  ∃ high low, [37, high, low] <:+: bytes ∧ escapeValue? high low = some value

theorem Spells.cons {bytes : List UInt8} {value : UInt8} (h : Spells bytes value) (b : UInt8) :
    Spells (b :: bytes) value := by
  obtain ⟨high, low, hsub, hvalue⟩ := h
  exact ⟨high, low, List.infix_cons hsub, hvalue⟩

theorem spells_escape {high low value : UInt8} (h : escapeValue? high low = some value)
    (rest : List UInt8) : Spells (37 :: high :: low :: rest) value :=
  ⟨high, low, (List.prefix_append [37, high, low] rest).isInfix, h⟩

/-- A byte that is read stood there, or an escape spells it. -/
theorem mem_or_spells_of_mem_decodeBytes {bytes : List UInt8} {value : UInt8}
    (h : value ∈ decodeBytes bytes) : value ∈ bytes ∨ Spells bytes value := by
  induction bytes using escape_induction with
  | nil => cases h
  | escape high low spelled rest hspelled ih =>
    rw [decodeBytes_of_escapeValue? hspelled] at h
    rcases List.mem_cons.1 h with rfl | h
    · exact .inr (spells_escape hspelled rest)
    · rcases ih h with hmem | hspells
      · exact .inl (by simp [hmem])
      · exact .inr (((hspells.cons low).cons high).cons 37)
  | plain b rest hstart ih =>
    rw [decodeBytes_cons_of_not_startsEscape hstart] at h
    rcases List.mem_cons.1 h with rfl | h
    · exact .inl (by simp)
    · rcases ih h with hmem | hspells
      · exact .inl (by simp [hmem])
      · exact .inr (hspells.cons b)

/-- Bytes are read as they are if no escape spells what is read. -/
theorem decodeBytes_eq_self {bytes : List UInt8}
    (h : ∀ value ∈ decodeBytes bytes, ¬ Spells bytes value) : decodeBytes bytes = bytes := by
  induction bytes using escape_induction with
  | nil => rfl
  | escape high low value rest hvalue ih =>
    rw [decodeBytes_of_escapeValue? hvalue] at h
    exact absurd (spells_escape hvalue rest) (h value (by simp))
  | plain b rest hstart ih =>
    rw [decodeBytes_cons_of_not_startsEscape hstart, List.forall_mem_cons] at h
    rw [decodeBytes_cons_of_not_startsEscape hstart,
      ih fun value hmem hspells => h.2 value hmem (hspells.cons b)]

/-- Nothing is read from nothing alone. -/
theorem decodeBytes_eq_nil_iff {bytes : List UInt8} : decodeBytes bytes = [] ↔ bytes = [] := by
  constructor
  · intro h
    have hself : decodeBytes bytes = bytes := decodeBytes_eq_self (by simp [h])
    exact hself.symm.trans h
  · rintro rfl
    rfl

/-! ## Escapes of dots and slashes -/

/-- The escapes of a dot and of a slash. -/
def markEscapes : List (List Char) :=
  ["%2e".toList, "%2E".toList, "%2f".toList, "%2F".toList]

/-- The digits of an escape: decimal ones, and letters of either case from ten on. -/
theorem hexValue?_spec {b u : UInt8} (h : hexValue? b = some u) :
    u.toNat < 10 ∧ b.toNat = 48 + u.toNat ∨
      10 ≤ u.toNat ∧ u.toNat < 16 ∧ (b.toNat = 55 + u.toNat ∨ b.toNat = 87 + u.toNat) := by
  unfold hexValue? at h
  simp only [UInt8.le_iff_toNat_le, UInt8.reduceToNat] at h
  have hsub : ∀ k : UInt8, k.toNat ≤ b.toNat → (b - k).toNat = b.toNat - k.toNat := fun k hk =>
    UInt8.toNat_sub_of_le _ _ (UInt8.le_iff_toNat_le.2 hk)
  have h48 := hsub 48
  have h55 := hsub 55
  have h87 := hsub 87
  simp only [UInt8.reduceToNat] at h48 h55 h87
  split at h
  · cases h
    omega
  split at h
  · cases h
    omega
  split at h
  · cases h
    omega
  · cases h

/-- An escape that spells a dot or a slash is one of theirs. -/
theorem exists_mem_markEscapes {high low value : UInt8} (h : escapeValue? high low = some value)
    (hvalue : value = 46 ∨ value = 47) : ∃ e ∈ markEscapes, Utf8.encode e = [37, high, low] := by
  obtain ⟨u, v, hu, hv, huv⟩ := escapeValue?_eq_some_iff.1 h
  have hhigh := hexValue?_spec hu
  have hlow := hexValue?_spec hv
  have hsum : 16 * u.toNat + v.toNat = value.toNat := by
    rw [← huv]
    simp only [UInt8.toNat_add, UInt8.toNat_mul, UInt8.reduceToNat]
    omega
  have hnat : value.toNat = 46 ∨ value.toNat = 47 := by
    simpa [← UInt8.toNat_inj] using hvalue
  have hdigits : high = 50 ∧ (low = 69 ∨ low = 101 ∨ low = 70 ∨ low = 102) := by
    simp only [← UInt8.toNat_inj, UInt8.reduceToNat]
    omega
  obtain ⟨rfl, rfl | rfl | rfl | rfl⟩ := hdigits
  · exact ⟨"%2E".toList, by simp [markEscapes], by decide⟩
  · exact ⟨"%2e".toList, by simp [markEscapes], by decide⟩
  · exact ⟨"%2F".toList, by simp [markEscapes], by decide⟩
  · exact ⟨"%2f".toList, by simp [markEscapes], by decide⟩

/-- The escapes are written with characters of one byte. -/
theorem toNat_lt_of_mem_markEscape {e : List Char} (he : e ∈ markEscapes) {c : Char} (hc : c ∈ e) :
    c.toNat < 128 := by
  have hall : markEscapes.all (fun e => e.all fun c => c.toNat < 128) = true := by decide
  exact of_decide_eq_true (List.all_eq_true.1 (List.all_eq_true.1 hall e he) c hc)

/-- A dot or a slash that an escape in a text spells is spelled by one of theirs. -/
theorem Spells.exists_markEscape {s : List Char} {value : UInt8}
    (h : Spells (Utf8.encode s) value) (hvalue : value = 46 ∨ value = 47) :
    ∃ e ∈ markEscapes, e <:+: s := by
  obtain ⟨high, low, hsub, hspelled⟩ := h
  obtain ⟨e, he, hbytes⟩ := exists_mem_markEscapes hspelled hvalue
  rw [← hbytes] at hsub
  exact ⟨e, he, Utf8.infix_of_encode_infix (fun c hc => toNat_lt_of_mem_markEscape he hc) hsub⟩

/-- A name without these escapes is decoded to a name. -/
theorem isName_of_decode? {s t : List Char} (hs : Path.IsName s)
    (hmarks : ∀ e ∈ markEscapes, ¬ e <:+: s) (h : decode? s = some t) : Path.IsName t := by
  rw [decode?_eq_some_iff] at h
  obtain ⟨hne, hdot, hdots, hslash⟩ := hs
  have hspells : ∀ value, value = 46 ∨ value = 47 → ¬ Spells (Utf8.encode s) value := by
    intro value hvalue hspells
    obtain ⟨e, he, hsub⟩ := hspells.exists_markEscape hvalue
    exact hmarks e he hsub
  -- if nothing but dots is read and no escape spells one, the name was dots already
  have hself : (∀ c ∈ t, c = '.') → t = s := by
    intro ht
    have hread : decodeBytes (Utf8.encode s) = Utf8.encode s := by
      apply decodeBytes_eq_self
      rw [← h]
      intro value hmem
      obtain ⟨c, hc, hbyte⟩ := List.mem_flatMap.1 hmem
      have hbytes : String.utf8EncodeChar '.' = [46] := by decide
      rw [ht c hc, hbytes, List.mem_singleton] at hbyte
      exact hspells value (.inl hbyte)
    exact Utf8.encode_inj.1 (h.trans hread)
  refine ⟨?_, ?_, ?_, ?_⟩
  · rintro rfl
    exact hne (Utf8.encode_eq_nil_iff.1 (decodeBytes_eq_nil_iff.1 h.symm))
  · intro ht
    exact hdot (by rw [← hself (by simp [ht]), ht])
  · intro ht
    exact hdots (by rw [← hself (by simp [ht]), ht])
  · intro hmem
    have hbyte : 47 ∈ decodeBytes (Utf8.encode s) := h ▸ (Utf8.mem_encode_iff (by decide)).2 hmem
    rcases mem_or_spells_of_mem_decodeBytes hbyte with hmem | hspelled
    · exact hslash ((Utf8.mem_encode_iff (c := '/') (by decide)).1 hmem)
    · exact hspells 47 (.inr rfl) hspelled

end DavGateway.Percent
