/-
# Encoded names

Percent encoding writes a name with a small alphabet, in which nothing ends a
segment or a path; so the segments of an encoded path are its encoded segments,
and they name something if the segments did.

* `Percent.isWritten_of_mem_encode` : the alphabet of encoded segments.
* `isPlainName_encode` : an encoded name stands in a URI as it is.
* `mark_mem_encode_iff` : marks stand in an encoded path where they stand in the path.
* `decodePath_join_encode` : joined encoded names are read back.
-/
import DavGateway.Proofs.Path.Decoding
import DavGateway.Resource.Resolve

namespace DavGateway

/-! ## The alphabet of encoded segments -/

namespace Percent

/-- A character that can stand in an encoded segment. -/
def isWritten (c : Char) : Bool := c.isAlphanum || marks.contains c || c = '%'

/-- The written form of a byte keeps to the alphabet. -/
theorem all_isWritten_encodeByte : ∀ n < 256, (encodeByte (UInt8.ofNat n)).all isWritten = true := by
  decide +kernel

/-- An encoded segment keeps to the alphabet. -/
theorem isWritten_of_mem_encode {s : List Char} {c : Char} (h : c ∈ encode s) :
    isWritten c = true := by
  obtain ⟨b, -, hc⟩ := List.mem_flatMap.1 h
  have hall := all_isWritten_encodeByte b.toNat b.toNat_lt
  rw [UInt8.ofNat_toNat] at hall
  exact List.all_eq_true.1 hall c hc

/-- What is not in the alphabet does not stand in an encoded segment. -/
theorem not_mem_encode {c : Char} (hc : isWritten c = false) (s : List Char) : c ∉ encode s := by
  intro h
  rw [isWritten_of_mem_encode h] at hc
  cases hc

/-- Different segments are written differently. -/
theorem encode_inj {s t : List Char} : encode s = encode t ↔ s = t := by
  constructor
  · intro h
    have hread : decode? (encode s) = decode? (encode t) := congrArg decode? h
    simpa [decode?_encode] using hread
  · rintro rfl
    rfl

/-- Encoded segments are read back one by one. -/
theorem mapM_decode?_encode (segs : List (List Char)) : (segs.map encode).mapM decode? = some segs := by
  induction segs with
  | nil => rfl
  | cons s segs ih => simp [decode?_encode, ih]

/-! ## Marks in encoded segments -/

/-- The digits of an escape are no marks. -/
theorem hexDigit_not_mem_marks : ∀ n < 16, hexDigit n ∉ marks := by
  decide +kernel

/-- The byte of a mark is written as the mark. -/
theorem encodeByte_mark {c : Char} (hc : c ∈ marks) :
    c.toNat < 128 ∧ encodeByte (UInt8.ofNat c.toNat) = [c] := by
  have hall : marks.all (fun c =>
      decide (c.toNat < 128 ∧ encodeByte (UInt8.ofNat c.toNat) = [c])) = true := by
    decide +kernel
  exact of_decide_eq_true (List.all_eq_true.1 hall c hc)

/-- A mark in the written form of a byte is that byte. -/
theorem eq_of_mark_mem_encodeByte {c : Char} (hc : c ∈ marks) {b : UInt8}
    (h : c ∈ encodeByte b) : b = UInt8.ofNat c.toNat := by
  unfold encodeByte at h
  split at h
  · obtain rfl : c = Char.ofUInt8 b := List.mem_singleton.1 h
    have hbyte : (Char.ofUInt8 b).toNat = b.toNat := UInt8.toNat_toUInt32 b
    rw [hbyte, UInt8.ofNat_toNat]
  · exfalso
    have hbound : b.toNat < 256 := b.toNat_lt
    simp only [List.mem_cons, List.not_mem_nil, or_false] at h
    rcases h with rfl | rfl | rfl
    · exact absurd hc (by decide)
    · exact hexDigit_not_mem_marks _ (by omega) hc
    · exact hexDigit_not_mem_marks _ (by omega) hc

/-- Marks stand in an encoded segment just if they stand in the segment. -/
theorem mark_mem_encode_iff {c : Char} (hc : c ∈ marks) {s : List Char} :
    c ∈ encode s ↔ c ∈ s := by
  obtain ⟨hascii, hwritten⟩ := encodeByte_mark hc
  rw [encode, List.mem_flatMap, ← Utf8.mem_encode_iff hascii]
  constructor
  · rintro ⟨b, hb, hmem⟩
    rwa [← eq_of_mark_mem_encodeByte hc hmem]
  · intro hb
    exact ⟨_, hb, by rw [hwritten]; exact List.mem_singleton_self c⟩

end Percent

namespace Path

/-! ## Names in URIs -/

/-- A name that stands in a URI as it is, ending neither path nor query. -/
def IsPlainName (seg : List Char) : Prop := IsName seg ∧ '?' ∉ seg ∧ '#' ∉ seg

instance (seg : List Char) : Decidable (IsName seg) :=
  inferInstanceAs (Decidable (_ ∧ _ ∧ _ ∧ _))

instance (seg : List Char) : Decidable (IsPlainName seg) :=
  inferInstanceAs (Decidable (_ ∧ _ ∧ _))

/-- An encoded name stands in a URI as it is. -/
theorem isPlainName_encode {seg : List Char} (h : IsName seg) :
    IsPlainName (Percent.encode seg) := by
  obtain ⟨hne, hdot, hdots, -⟩ := h
  -- these three are written as they are, so nothing else is written like them
  have hnil : Percent.encode [] = [] := by decide
  have hone : Percent.encode ['.'] = ['.'] := by decide
  have htwo : Percent.encode ['.', '.'] = ['.', '.'] := by decide
  refine ⟨⟨?_, ?_, ?_, ?_⟩, ?_, ?_⟩
  · rwa [ne_eq, ← hnil, Percent.encode_inj]
  · rwa [ne_eq, ← hone, Percent.encode_inj]
  · rwa [ne_eq, ← htwo, Percent.encode_inj]
  · exact Percent.not_mem_encode (by decide) seg
  · exact Percent.not_mem_encode (by decide) seg
  · exact Percent.not_mem_encode (by decide) seg

/-- Encoded names stand in a URI as they are. -/
theorem isPlainName_map_encode {names : List (List Char)} (h : ∀ s ∈ names, IsName s) :
    ∀ s ∈ names.map Percent.encode, IsPlainName s := by
  rw [List.forall_mem_map]
  intro s hs
  exact isPlainName_encode (h s hs)

/-- The digits of a revision stand in a URI as they are. -/
theorem isPlainName_digits (revision : Revision) : IsPlainName revision.digits := by
  have hdigit : ∀ {c : Char}, c.isDigit = false → c ∉ revision.digits := by
    intro c hc hmem
    rw [Decimal.isDigit_of_mem_digits hmem] at hc
    cases hc
  have hdot : '.' ∉ revision.digits := hdigit (by decide)
  refine ⟨⟨Decimal.digits_ne_nil _, ?_, ?_, hdigit (by decide)⟩, hdigit (by decide),
    hdigit (by decide)⟩
  · intro h
    exact hdot (by rw [h]; simp)
  · intro h
    exact hdot (by rw [h]; simp)

/-! ## Absolute paths -/

/-- The absolute path of names: each behind a slash, and a slash alone if there are none. -/
def absolute (names : List (List Char)) : List Char := join names ++ slashIf (names = [])

/-- Whether a path is that of names. -/
def IsAbsolute (path : List Char) : Prop :=
  ∃ names, (∀ s ∈ names, IsName s) ∧ path = absolute names

/-- The first segment behind the slash that a path begins with. -/
def first (path : List Char) : List Char := ((segments path).drop 1).headD []

theorem isAbsolute_slash : IsAbsolute ['/'] := ⟨[], by simp, rfl⟩

/-- The first segment of an absolute path is its first name. -/
theorem first_absolute {names : List (List Char)} (h : ∀ s ∈ names, IsName s) :
    first (absolute names) = names.headD [] := by
  cases names with
  | nil => rfl
  | cons s names =>
    have hseg : segments (absolute (s :: names)) = [] :: s :: names := by
      rw [absolute, show slashIf (decide (s :: names = [])) = [] from rfl, List.append_nil,
        segments_join fun t ht => (h t ht).2.2.2]
    rw [first, hseg]
    rfl

/-- An absolute path is encoded name by name. -/
theorem encode_absolute {names : List (List Char)} (h : ∀ s ∈ names, IsName s) :
    encode (absolute names) = join (names.map Percent.encode) ++ slashIf (names = []) := by
  cases names with
  | nil => decide
  | cons s names =>
    rw [List.forall_mem_cons] at h
    obtain ⟨c, s', rfl⟩ := List.exists_cons_of_ne_nil h.1.1
    have hc : c ≠ '/' := fun hc => h.1.2.2.2 (by rw [hc]; simp)
    have hcut : (absolute ((c :: s') :: names)).dropWhile (· = '/') = c :: s' ++ join names := by
      simp [absolute, hc]
    have hseg : segments (c :: s' ++ join names) = (c :: s') :: names :=
      segments_append_join (List.forall_mem_cons.2 ⟨h.1.2.2.2, fun t ht => (h.2 t ht).2.2.2⟩)
    rw [encode, hcut, hseg]
    simp

/-- Joined encoded names are read back. -/
theorem decodePath_join_encode (names : List (List Char)) (directory : Bool) :
    decodePath (join (names.map Percent.encode) ++ slashIf directory) =
      .ok (String.ofList (join names ++ slashIf directory)) := by
  rw [decodePath, Percent.decode?_joined, Percent.mapM_decode?_encode, Option.map_some]

/-! ## Characters of encoded paths -/

/-- A character of joined texts other than the slash stands in one of them. -/
theorem mem_join_map_iff {c : Char} (hc : c ≠ '/') {segs : List (List Char)}
    {f : List Char → List Char} : c ∈ join (segs.map f) ↔ ∃ s ∈ segs, c ∈ f s := by
  simp [join, List.flatMap_map, List.mem_flatMap, hc]

/-- A character of a path other than the slash stands in one of its segments. -/
theorem exists_mem_segments_iff {c : Char} (hc : c ≠ '/') {path : List Char} :
    (∃ s ∈ segments path, c ∈ s) ↔ c ∈ path := by
  have hjoin : c ∈ join ((segments path).map id) ↔ ∃ s ∈ segments path, c ∈ s :=
    mem_join_map_iff hc
  rw [List.map_id, join_segments, List.mem_cons, or_iff_right hc] at hjoin
  exact hjoin.symm

/-- Marks stand in an encoded path just if they stand in the path. -/
theorem mark_mem_encode_iff {c : Char} (hmark : c ∈ Percent.marks) {path : List Char} :
    c ∈ encode path ↔ c ∈ path := by
  have hc : c ≠ '/' := by
    rintro rfl
    revert hmark
    decide
  -- the slashes in front, which count once, are no marks
  have hslashes : c ∉ path.takeWhile (· = '/') := by
    intro h
    have hslash := List.all_eq_true.1 List.all_takeWhile c h
    exact hc (by simpa using hslash)
  calc c ∈ encode path
      ↔ ∃ s ∈ segments (path.dropWhile (· = '/')), c ∈ Percent.encode s := mem_join_map_iff hc
    _ ↔ c ∈ path.dropWhile (· = '/') := by
      simp only [Percent.mark_mem_encode_iff hmark]
      exact exists_mem_segments_iff hc
    _ ↔ c ∈ path.takeWhile (· = '/') ++ path.dropWhile (· = '/') :=
      (List.mem_append.trans (or_iff_right hslashes)).symm
    _ ↔ c ∈ path := by rw [List.takeWhile_append_dropWhile]

/-- What is not in the alphabet of encoded segments does not stand in an encoded path. -/
theorem not_mem_encode {c : Char} (hc : c ≠ '/') (hwritten : Percent.isWritten c = false)
    (path : List Char) : c ∉ encode path := by
  rw [encode, mem_join_map_iff hc]
  rintro ⟨s, -, hmem⟩
  exact Percent.not_mem_encode hwritten s hmem

end Path

end DavGateway
