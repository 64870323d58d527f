/-
# Written paths

Whatever a path is, canonical or not, its written form is a sequence of
slashes, characters that stand for themselves, and escapes of two upper-case
digits.  No escape begins in one segment and ends in the next, and none comes
about where a percent sign stood, so the path is read back; only the slashes
that it begins with count once.

* `Written` : what written forms are made of.
* `count_slash_encode` : a path has as many slashes in its written form.
* `encode_reads_back` : the written form of any path, and what is read from it.
-/
import DavGateway.Proofs.Path.Encoding

namespace DavGateway.Path

open Percent (encodeByte hexDigit isPlain)

/-- A path behind a single slash, which the slashes that it begins with make up. -/
def rooted (path : List Char) : List Char := '/' :: path.dropWhile (· = '/')

/-! ## The form of written paths -/

/-- An upper-case hexadecimal digit. -/
def isEscapeDigit (c : Char) : Bool := c.isDigit || ('A' ≤ c && c ≤ 'F')

/-- What written paths are made of: slashes, letters, digits and marks, and percent signs with two
upper-case digits behind each. -/
inductive Written : List Char → Prop
  | nil : Written []
  | slash {rest : List Char} (h : Written rest) : Written ('/' :: rest)
  | plain {c : Char} {rest : List Char}
    (hc : c.isAlphanum = true ∨ c ∈ "!$&'()*+,-.:=@_~".toList) (h : Written rest) :
    Written (c :: rest)
  | escape {high low : Char} {rest : List Char} (hhigh : isEscapeDigit high = true)
    (hlow : isEscapeDigit low = true) (h : Written rest) : Written ('%' :: high :: low :: rest)

/-- The digits of an escape are upper-case. -/
theorem isEscapeDigit_hexDigit : ∀ n < 16, isEscapeDigit (hexDigit n) = true := by
  decide +kernel

/-- A byte is written as one character or as one escape. -/
theorem Written.encodeByte_append {rest : List Char} (h : Written rest) (b : UInt8) :
    Written (encodeByte b ++ rest) := by
  have hbound : b.toNat < 256 := b.toNat_lt
  unfold encodeByte
  split
  · next hplain =>
    rw [isPlain, Bool.or_eq_true, List.contains_iff_mem] at hplain
    exact .plain hplain h
  · exact .escape (isEscapeDigit_hexDigit _ (by omega)) (isEscapeDigit_hexDigit _ (by omega)) h

/-- The written form of a segment, in front of another. -/
theorem Written.encode_append {rest : List Char} (h : Written rest) (s : List Char) :
    Written (Percent.encode s ++ rest) := by
  rw [Percent.encode]
  induction Utf8.encode s with
  | nil => exact h
  | cons b bytes ih =>
    rw [List.flatMap_cons, List.append_assoc]
    exact ih.encodeByte_append b

/-- Written segments, joined. -/
theorem written_join_encode (segs : List (List Char)) :
    Written (join (segs.map Percent.encode)) := by
  induction segs with
  | nil => exact .nil
  | cons s segs ih =>
    rw [List.map_cons, join_cons]
    exact .slash (ih.encode_append s)

/-! ## Slashes -/

/-- Joined segments have one slash each. -/
theorem count_slash_join {segs : List (List Char)} (h : ∀ s ∈ segs, '/' ∉ s) :
    (join segs).count '/' = segs.length := by
  induction segs with
  | nil => rfl
  | cons s segs ih =>
    rw [List.forall_mem_cons] at h
    rw [join_cons, List.cons_append, List.count_cons_self, List.count_append,
      List.count_eq_zero.2 h.1, ih h.2, Nat.zero_add, List.length_cons]

/-- A path has as many slashes in its written form. -/
theorem count_slash_encode (path : List Char) :
    (encode path).count '/' = (rooted path).count '/' := by
  have hwritten : ∀ s ∈ (segments (path.dropWhile (· = '/'))).map Percent.encode, '/' ∉ s := by
    rw [List.forall_mem_map]
    intro s _
    exact Percent.not_mem_encode (by decide) s
  calc (encode path).count '/'
      = ((segments (path.dropWhile (· = '/'))).map Percent.encode).length :=
        count_slash_join hwritten
    _ = (segments (path.dropWhile (· = '/'))).length := List.length_map ..
    _ = (join (segments (path.dropWhile (· = '/')))).count '/' :=
        (count_slash_join fun _ hs => not_mem_of_mem_segments hs).symm
    _ = (rooted path).count '/' := by rw [join_segments, rooted]

/-! ## Reading back -/

/-- The written form of a path begins with a slash. -/
theorem head?_encode (path : List Char) : (encode path).head? = some '/' := by
  obtain ⟨s, segs, hsegs⟩ :=
    List.exists_cons_of_ne_nil (segments_ne_nil (path.dropWhile (· = '/')))
  rw [encode, hsegs, List.map_cons, join_cons]
  rfl

/-- What is read from the written form of a path is the path behind a single slash. -/
theorem decodePath_encode (path : List Char) :
    decodePath (encode path) = .ok (String.ofList (rooted path)) := by
  have hread := decodePath_join_encode (segments (path.dropWhile (· = '/'))) false
  rwa [slashIf_false, List.append_nil, List.append_nil, join_segments] at hread

/-- **Any path is read back from its written form.**  The written form begins with a slash, is made
of slashes, letters, digits, marks and escapes alone, has no slash more or less than the path behind
a single slash, and this is what it is read as: empty segments, dot segments and percent signs
included. -/
theorem encode_reads_back (path : List Char) :
    (encode path).head? = some '/' ∧
      Written (encode path) ∧
      (encode path).count '/' = (rooted path).count '/' ∧
      decodePath (encode path) = .ok (String.ofList (rooted path)) :=
  ⟨head?_encode path, written_join_encode _, count_slash_encode path, decodePath_encode path⟩

/-- A percent sign is written as an escape, so what stands behind it makes no other. -/
example : encode "//%41/é;/".toList = "/%2541/%C3%A9%3B/".toList := by decide

end DavGateway.Path
