/-
# Slash-separated paths

A path is a text cut into segments by `/`.  In a URI each segment is
percent-encoded by itself, and a path may begin with another only where a
segment ends.

* `segments_join` : joined segments are the segments of what they are joined to.
* `after?_eq_some_iff` : what follows a path that another begins with.
-/
import DavGateway.Text.Cut
import DavGateway.Text.Percent

namespace DavGateway.Path

/-- The segments of a path; the empty path has one, which is empty. -/
def segments (path : List Char) : List (List Char) := path.splitOn '/'

theorem segments_ne_nil (path : List Char) : segments path ≠ [] := List.splitOn_ne_nil _ _

/-- The segments on both sides of a slash. -/
theorem segments_append_slash (p q : List Char) :
    segments (p ++ '/' :: q) = segments p ++ segments q :=
  List.splitOn_append_cons_self p q

/-- A text without a slash is one segment. -/
theorem segments_of_not_mem {s : List Char} (h : '/' ∉ s) : segments s = [s] :=
  List.splitOn_eq_singleton h

/-- No segment has a slash in it. -/
theorem not_mem_of_mem_segments {path seg : List Char} (h : seg ∈ segments path) : '/' ∉ seg := by
  induction path generalizing seg with
  | nil =>
    have : seg = [] := by simpa [segments] using h
    simp [this]
  | cons c path ih =>
    rw [segments, List.splitOn_cons_eq_if_modifyHead] at h
    split at h
    · rcases List.mem_cons.1 h with rfl | h
      · simp
      · exact ih h
    · next hc =>
      have hc : c ≠ '/' := by simpa using hc
      obtain ⟨first, rest, hsegs⟩ := List.exists_cons_of_ne_nil (segments_ne_nil path)
      rw [show path.splitOn '/' = first :: rest from hsegs, List.modifyHead_cons] at h
      rcases List.mem_cons.1 h with rfl | h
      · have : '/' ∉ first := ih (by rw [hsegs]; exact List.mem_cons_self)
        simp [this, Ne.symm hc]
      · exact ih (by rw [hsegs]; exact List.mem_cons_of_mem _ h)

/-! ## Joining -/

/-- Segments written with a slash before each. -/
def join (segs : List (List Char)) : List Char := segs.flatMap ('/' :: ·)

@[simp] theorem join_nil : join [] = [] := rfl

@[simp] theorem join_cons (s : List Char) (segs : List (List Char)) :
    join (s :: segs) = '/' :: s ++ join segs := rfl

@[simp] theorem join_append (s t : List (List Char)) : join (s ++ t) = join s ++ join t :=
  List.flatMap_append

/-- Joined segments have one empty segment in front, for the slash that they begin with. -/
theorem segments_join {segs : List (List Char)} (h : ∀ s ∈ segs, '/' ∉ s) :
    segments (join segs) = [] :: segs :=
  Cut.splitOn_flatMap_cons h

/-! ## Encoded paths -/

/-- A path as it stands in a URI: leading slashes count once, segments are percent-encoded. -/
def encode (path : List Char) : List Char :=
  join ((segments (path.dropWhile (· = '/'))).map Percent.encode)

/-! ## Paths that begin with another -/

/-- What follows `start` in a path, if it is nothing or begins with a slash. -/
def after? (start path : List Char) : Option (List Char) :=
  (Cut.after? start path).filter fun rest => rest = [] || rest.head? = some '/'

/-- What follows is the rest of the path, and begins a segment. -/
theorem after?_eq_some_iff {start path rest : List Char} :
    after? start path = some rest ↔
      path = start ++ rest ∧ (rest = [] ∨ rest.head? = some '/') := by
  simp [after?, Option.filter_eq_some_iff, Cut.after?_eq_some_iff]

end DavGateway.Path
