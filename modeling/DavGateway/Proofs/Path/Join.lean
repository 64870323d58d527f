/-
# Joined paths

A path in normal form is a list of names, each behind a slash, with or without
a slash at the end.  Here such forms are compared: two of them agree only if
their names do, one begins with another only if its names do, and resolution
gives the names back.

* `append_eq_append_iff` : a text without slashes is cut off at the slash that follows it.
* `eq_append_of_join` : a joined path begins with another only where its segments do.
* `resolve_joined`, `endsInDirectory_joined` : names and trailing slash are read off.
* `isResolved_joined` : a joined path has nothing left to resolve.
-/
import DavGateway.Path.Normal

namespace DavGateway.Path

/-- A slash, or nothing. -/
def slashIf (directory : Bool) : List Char := if directory then ['/'] else []

@[simp] theorem slashIf_true : slashIf true = ['/'] := rfl

@[simp] theorem slashIf_false : slashIf false = [] := rfl

/-! ## Where a segment ends -/

/-- What can follow a segment: nothing, or a slash and more. -/
def Boundary (rest : List Char) : Prop := rest = [] ∨ rest.head? = some '/'

theorem boundary_cons (rest : List Char) : Boundary ('/' :: rest) := .inr rfl

theorem boundary_slashIf (directory : Bool) : Boundary (slashIf directory) := by
  cases directory
  · exact .inl rfl
  · exact .inr rfl

/-- What follows a segment is nothing, or a slash and more. -/
theorem Boundary.eq_nil_or_cons {rest : List Char} (h : Boundary rest) :
    rest = [] ∨ ∃ path, rest = '/' :: path := by
  rcases h with hnil | hhead
  · exact .inl hnil
  · exact .inr (List.head?_eq_some_iff.1 hhead)

/-- Joined segments can follow a segment. -/
theorem boundary_join_append {tail : List Char} (h : Boundary tail) (segs : List (List Char)) :
    Boundary (join segs ++ tail) := by
  cases segs with
  | nil => exact h
  | cons s segs => exact boundary_cons _

/-- A segment is what stands before the first slash. -/
theorem takeWhile_append_of_boundary {s rest : List Char} (hs : '/' ∉ s) (hrest : Boundary rest) :
    (s ++ rest).takeWhile (· ≠ '/') = s := by
  rw [List.takeWhile_append_of_pos]
  · rcases hrest.eq_nil_or_cons with rfl | ⟨path, rfl⟩
    · simp
    · simp
  · intro c hc
    have : c ≠ '/' := fun h => hs (h ▸ hc)
    simpa using this

/-- A text without slashes is cut off at the slash that follows it. -/
theorem append_eq_append_iff {s t rest more : List Char} (hs : '/' ∉ s) (ht : '/' ∉ t)
    (hrest : Boundary rest) (hmore : Boundary more) :
    s ++ rest = t ++ more ↔ s = t ∧ rest = more := by
  constructor
  · intro h
    have hst : s = t := by
      rw [← takeWhile_append_of_boundary hs hrest, h, takeWhile_append_of_boundary ht hmore]
    subst hst
    exact ⟨rfl, List.append_cancel_left h⟩
  · rintro ⟨rfl, rfl⟩
    rfl

/-- A slash in front is a segment more. -/
theorem segments_slash_cons (path : List Char) : segments ('/' :: path) = [] :: segments path :=
  segments_append_slash [] path

/-- The segments of joined segments without the slash in front. -/
theorem segments_append_join {s : List Char} {segs : List (List Char)}
    (h : ∀ t ∈ s :: segs, '/' ∉ t) : segments (s ++ join segs) = s :: segs := by
  have hjoin : segments ('/' :: (s ++ join segs)) = [] :: s :: segs := segments_join h
  rw [segments_slash_cons, List.cons_inj_right] at hjoin
  exact hjoin

/-- A slash and the segments of a path, joined again. -/
theorem join_segments (path : List Char) : join (segments path) = '/' :: path := by
  induction path with
  | nil => rfl
  | cons c path ih =>
    by_cases hc : c = '/'
    · rw [hc, segments_slash_cons, join_cons, ih]
      rfl
    · obtain ⟨first, segs, hsegs⟩ := List.exists_cons_of_ne_nil (segments_ne_nil path)
      have hcons : segments (c :: path) = (c :: first) :: segs := by
        rw [segments, List.splitOn_cons_eq_if_modifyHead, if_neg (by simpa using hc),
          show path.splitOn '/' = first :: segs from hsegs]
        rfl
      rw [hsegs, join_cons, List.cons_append, List.cons_inj_right] at ih
      rw [hcons, join_cons, List.cons_append, List.cons_append, ih]

/-! ## Joined paths that begin with another -/

/-- A joined path begins with another only where its segments do, unless the slash at its end
stands for an empty segment of the other. -/
theorem eq_append_of_join {start segs : List (List Char)} {rest : List Char} {directory : Bool}
    (hstart : ∀ s ∈ start, '/' ∉ s) (hlast : start.getLast? ≠ some [])
    (hsegs : ∀ s ∈ segs, '/' ∉ s) (hrest : Boundary rest)
    (h : join segs ++ slashIf directory = join start ++ rest) :
    ∃ more, segs = start ++ more ∧ rest = join more ++ slashIf directory := by
  induction start generalizing segs with
  | nil => exact ⟨segs, rfl, h.symm⟩
  | cons r start ih =>
    rw [List.forall_mem_cons] at hstart
    cases segs with
    | nil =>
      -- only a slash is left to begin with `r`, so `r` would be empty and the last segment
      exfalso
      cases directory with
      | false => simp at h
      | true =>
        have hr : r = [] := by
          cases r with
          | nil => rfl
          | cons c r => simp at h
        have hnil : start = [] := by
          cases start with
          | nil => rfl
          | cons t start => simp [hr] at h
        exact hlast (by rw [hr, hnil]; rfl)
    | cons s segs =>
      rw [List.forall_mem_cons] at hsegs
      have htail : s ++ (join segs ++ slashIf directory) = r ++ (join start ++ rest) := by
        simpa using h
      rw [append_eq_append_iff hsegs.1 hstart.1 (boundary_join_append (boundary_slashIf _) _)
        (boundary_join_append hrest _)] at htail
      obtain ⟨rfl, htail⟩ := htail
      have hlast' : start.getLast? ≠ some [] := by
        cases start with
        | nil => simp
        | cons t start => simpa using hlast
      obtain ⟨more, rfl, hmore⟩ := ih hstart.2 hlast' hsegs.2 htail
      exact ⟨more, rfl, hmore⟩

/-- What follows joined segments in a joined path, if its segments begin with them. -/
theorem after?_join {start segs : List (List Char)} {directory : Bool}
    (hstart : ∀ s ∈ start, '/' ∉ s) (hlast : start.getLast? ≠ some [])
    (hsegs : ∀ s ∈ segs, '/' ∉ s) :
    after? (join start) (join segs ++ slashIf directory) =
      if start <+: segs then some (join (segs.drop start.length) ++ slashIf directory)
      else none := by
  split
  · next hprefix =>
    rw [after?_eq_some_iff]
    obtain ⟨more, rfl⟩ := hprefix
    rw [List.drop_left]
    exact ⟨by simp, boundary_join_append (boundary_slashIf _) _⟩
  · next hprefix =>
    rw [Option.eq_none_iff_forall_not_mem]
    intro rest hmem
    obtain ⟨h, hrest⟩ := after?_eq_some_iff.1 (Option.mem_def.1 hmem)
    obtain ⟨more, rfl, -⟩ := eq_append_of_join hstart hlast hsegs hrest h
    exact hprefix (List.prefix_append _ _)

/-- What follows one segment in a joined path behind another segment. -/
theorem after?_segment {s t rest : List Char} (hs : '/' ∉ s) (ht : '/' ∉ t)
    (hrest : Boundary rest) :
    after? s (t ++ rest) = if t = s then some rest else none := by
  split
  · next heq =>
    subst heq
    exact after?_eq_some_iff.2 ⟨rfl, hrest⟩
  · next hne =>
    rw [Option.eq_none_iff_forall_not_mem]
    intro more hmem
    obtain ⟨h, hmore⟩ := after?_eq_some_iff.1 (Option.mem_def.1 hmem)
    exact hne ((append_eq_append_iff ht hs hrest hmore).1 h).1

/-! ## Trailing slashes -/

/-- Whether a path ends in a slash, or in a dot segment behind one. -/
def endsInDirectory (path : List Char) : Bool :=
  [['/'], ['/', '.'], ['/', '.', '.']].any (List.isSuffixOf · path)

/-- Two texts that are cut at their last slash agree on both sides of it. -/
theorem append_slash_eq_append_slash_iff {front back s t : List Char} (hs : '/' ∉ s)
    (ht : '/' ∉ t) : front ++ '/' :: s = back ++ '/' :: t ↔ front = back ∧ s = t := by
  rw [← List.reverse_inj, List.reverse_append, List.reverse_append, List.reverse_cons,
    List.reverse_cons, List.append_assoc, List.append_assoc, List.singleton_append,
    List.singleton_append, append_eq_append_iff (by simpa using hs) (by simpa using ht) (boundary_cons _)
      (boundary_cons _)]
  simp [and_comm]

/-- What a path ends in depends on what stands behind its last slash. -/
theorem endsInDirectory_append_slash (front : List Char) {s : List Char} (hs : '/' ∉ s) :
    endsInDirectory (front ++ '/' :: s) = (s = [] || s = ['.'] || s = ['.', '.']) := by
  have key : ∀ tail : List Char, '/' ∉ tail →
      (List.isSuffixOf ('/' :: tail) (front ++ '/' :: s) = true ↔ s = tail) := by
    intro tail ht
    rw [List.isSuffixOf_iff_suffix]
    constructor
    · rintro ⟨back, h⟩
      exact ((append_slash_eq_append_slash_iff ht hs).1 h).2.symm
    · rintro rfl
      exact List.suffix_append _ _
  rw [Bool.eq_iff_iff]
  simp [endsInDirectory, key, or_assoc]

/-- A path with a slash is cut at its last one. -/
theorem exists_eq_append_slash {path : List Char} (h : '/' ∈ path) :
    ∃ front s, path = front ++ '/' :: s ∧ '/' ∉ s := by
  obtain ⟨s, front, hrev, hs⟩ := List.eq_append_cons_of_mem (List.mem_reverse.2 h)
  refine ⟨front.reverse, s.reverse, ?_, by simpa using hs⟩
  rw [← List.reverse_reverse path, hrev]
  simp

/-- The directory form of a path with a slash is seen from how it ends. -/
theorem isDirectoryForm_eq_of_mem {path : List Char} (h : '/' ∈ path) :
    isDirectoryForm path = endsInDirectory path := by
  -- both sides look at what stands behind the last slash
  obtain ⟨front, s, rfl, hs⟩ := exists_eq_append_slash h
  rw [isDirectoryForm, segments_append_slash, segments_of_not_mem hs,
    endsInDirectory_append_slash front hs]
  simp

/-- The directory form of a rooted path is seen from how it ends. -/
theorem isDirectoryForm_eq_endsInDirectory {path : List Char} (h : path.head? = some '/') :
    isDirectoryForm path = endsInDirectory path :=
  isDirectoryForm_eq_of_mem (List.mem_of_mem_head? h)

/-- A path without a slash does not end in one, nor in a dot segment behind one. -/
theorem endsInDirectory_of_not_mem {path : List Char} (h : '/' ∉ path) :
    endsInDirectory path = false := by
  rw [endsInDirectory, List.any_eq_false]
  intro tail htail hsuffix
  have hslash : '/' ∈ tail := by
    simp only [List.mem_cons, List.not_mem_nil, or_false] at htail
    rcases htail with rfl | rfl | rfl <;> decide
  exact h ((List.isSuffixOf_iff_suffix.1 hsuffix).subset hslash)

/-- A normal form is a joined path. -/
theorem normalize_eq (path : List Char) :
    normalize path = join (resolve path) ++ slashIf (resolve path = [] || isDirectoryForm path) := by
  simp [normalize, slashIf]

/-! ## Joined names -/

/-- Resolution gives the names of a joined path back. -/
theorem resolve_joined {names : List (List Char)} (h : ∀ s ∈ names, IsName s)
    (directory : Bool) : resolve (join names ++ slashIf directory) = names := by
  cases directory with
  | false => rw [slashIf_false, List.append_nil, resolve_join h]
  | true =>
    -- the slash at the end adds an empty segment, which resolution drops
    have hempty : segments [] = [[]] := rfl
    rw [slashIf_true, resolve, segments_append_slash, hempty, List.foldl_append, List.foldl_cons,
      List.foldl_nil, resolveStep_nil]
    exact resolve_join h

/-- Only the slash at its end makes a joined path a directory. -/
theorem endsInDirectory_joined {names : List (List Char)} (h : ∀ s ∈ names, IsName s)
    (directory : Bool) : endsInDirectory (join names ++ slashIf directory) = directory := by
  cases directory with
  | true =>
    rw [slashIf_true, endsInDirectory_append_slash _ (by simp)]
    rfl
  | false =>
    rw [slashIf_false, List.append_nil]
    rcases List.eq_nil_or_concat names with rfl | ⟨front, s, rfl⟩
    · rfl
    · have hs : IsName s := h s (by simp)
      rw [List.concat_eq_append, join_append, join_cons, join_nil, List.append_nil,
        endsInDirectory_append_slash _ hs.2.2.2]
      simp [hs.1, hs.2.1, hs.2.2.1]

/-! ## Resolved paths -/

/-- A rooted path without dot segments, and without empty segments but at its end. -/
def IsResolved : List Char → Prop
  | '/' :: rest =>
    (∀ seg ∈ segments rest, seg ≠ ['.'] ∧ seg ≠ ['.', '.']) ∧
      ∀ seg ∈ (segments rest).dropLast, seg ≠ []
  | _ => False

/-- Joined names are a resolved path. -/
theorem isResolved_joined {names : List (List Char)} (h : ∀ s ∈ names, IsName s)
    {directory : Bool} (hne : names ≠ [] ∨ directory = true) :
    IsResolved (join names ++ slashIf directory) := by
  have hdots : ∀ s ∈ names, s ≠ ['.'] ∧ s ≠ ['.', '.'] := fun s hs => ⟨(h s hs).2.1, (h s hs).2.2.1⟩
  have hempty : segments [] = [[]] := rfl
  cases names with
  | nil =>
    obtain rfl : directory = true := by simpa using hne
    simp [IsResolved, hempty]
  | cons name names =>
    have hsegs : segments (name ++ join names) = name :: names :=
      segments_append_join fun t ht => (h t ht).2.2.2
    cases directory with
    | false =>
      rw [slashIf_false, List.append_nil, join_cons, List.cons_append, IsResolved, hsegs]
      exact ⟨hdots, fun seg hseg => (h seg (List.dropLast_subset _ hseg)).1⟩
    | true =>
      -- the slash at the end adds an empty segment behind the names
      rw [slashIf_true, join_cons, List.cons_append, List.cons_append, IsResolved,
        segments_append_slash, hsegs, hempty, List.dropLast_concat]
      refine ⟨?_, fun seg hseg => (h seg hseg).1⟩
      intro seg hseg
      rcases List.mem_append.1 hseg with hseg | hseg
      · exact hdots seg hseg
      · rw [List.mem_singleton.1 hseg]
        simp

end DavGateway.Path
