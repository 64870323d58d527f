/-
# Normal forms of paths

`resolve` keeps the segments of a path that name something: it drops empty ones
and `.`, and lets `..` take back the segment kept before it.  `normalize`
writes what is left with one slash before each segment, and keeps a trailing
slash.

* `isName_of_mem_resolve` : what resolution leaves names something.
* `resolve_join` : names are left as they are.
* `head?_normalize` : a normal form begins with a slash.
-/
import DavGateway.Path.Basic

namespace DavGateway.Path

/-! ## Resolution -/

/-- One step of resolution: `kept` holds the segments kept so far, last one first. -/
def resolveStep (kept : List (List Char)) (seg : List Char) : List (List Char) :=
  if seg = [] ∨ seg = ['.'] then kept
  else if seg = ['.', '.'] then kept.tail
  else seg :: kept

@[simp] theorem resolveStep_nil (kept : List (List Char)) : resolveStep kept [] = kept := rfl

@[simp] theorem resolveStep_dotDot (kept : List (List Char)) :
    resolveStep kept ['.', '.'] = kept.tail := rfl

/-- The segments left once empty and dot segments are resolved. -/
def resolve (path : List Char) : List (List Char) :=
  ((segments path).foldl resolveStep []).reverse

/-! ## Names -/

/-- A segment that names something: neither empty nor a dot segment. -/
def IsName (seg : List Char) : Prop :=
  seg ≠ [] ∧ seg ≠ ['.'] ∧ seg ≠ ['.', '.'] ∧ '/' ∉ seg

/-- A name is kept. -/
theorem resolveStep_name {seg : List Char} (h : IsName seg) (kept : List (List Char)) :
    resolveStep kept seg = seg :: kept := by
  simp [resolveStep, h.1, h.2.1, h.2.2.1]

/-- A step keeps names only. -/
theorem isName_of_mem_foldl {segs kept : List (List Char)} (hs : ∀ s ∈ segs, '/' ∉ s)
    (hk : ∀ s ∈ kept, IsName s) : ∀ s ∈ segs.foldl resolveStep kept, IsName s := by
  induction segs generalizing kept with
  | nil => exact hk
  | cons seg segs ih =>
    rw [List.forall_mem_cons] at hs
    apply ih hs.2
    intro s hmem
    unfold resolveStep at hmem
    split at hmem
    · exact hk s hmem
    split at hmem
    · exact hk s (List.mem_of_mem_tail hmem)
    · rcases List.mem_cons.1 hmem with rfl | hmem
      · next h₁ h₂ => exact ⟨fun h => h₁ (.inl h), fun h => h₁ (.inr h), h₂, hs.1⟩
      · exact hk s hmem

/-- What resolution leaves names something. -/
theorem isName_of_mem_resolve {path seg : List Char} (h : seg ∈ resolve path) : IsName seg := by
  have hseg : seg ∈ (segments path).foldl resolveStep [] := List.mem_reverse.1 h
  exact isName_of_mem_foldl (fun s hs => not_mem_of_mem_segments hs)
    (List.forall_mem_nil _) seg hseg

/-- Names are kept in order. -/
theorem foldl_resolveStep_names {segs : List (List Char)} (h : ∀ s ∈ segs, IsName s)
    (kept : List (List Char)) : segs.foldl resolveStep kept = segs.reverse ++ kept := by
  induction segs generalizing kept with
  | nil => rfl
  | cons seg segs ih =>
    rw [List.forall_mem_cons] at h
    rw [List.foldl_cons, resolveStep_name h.1, ih h.2, List.reverse_cons,
      List.append_assoc]
    rfl

/-- Resolution leaves names as they are. -/
theorem resolve_join {segs : List (List Char)} (h : ∀ s ∈ segs, IsName s) :
    resolve (join segs) = segs := by
  rw [resolve, segments_join fun s hs => (h s hs).2.2.2, List.foldl_cons, resolveStep_nil,
    foldl_resolveStep_names h]
  simp

/-! ## Normal forms -/

/-- Whether a path ends in a slash, or in a dot segment that stands for a directory. -/
def isDirectoryForm (path : List Char) : Bool :=
  match (segments path).getLast? with
  | some seg => seg = [] || seg = ['.'] || seg = ['.', '.']
  | none => false

/-- The normal form of a path: resolved, rooted, with its trailing slash if it had one. -/
def normalize (path : List Char) : List Char :=
  let kept := resolve path
  join kept ++ if kept = [] ∨ isDirectoryForm path then ['/'] else []

/-- A normal form begins with a slash. -/
theorem head?_normalize (path : List Char) : (normalize path).head? = some '/' := by
  unfold normalize
  cases resolve path with
  | nil => simp
  | cons seg segs => simp

end DavGateway.Path
