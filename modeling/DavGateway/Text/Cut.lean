/-
# Cutting texts

Where a text begins with another, and where a separator first stands in it.

* `after?_eq_some_iff` : what follows a beginning is the rest of the text.
* `atFirst?_append`, `atFirst?_eq_none_iff` : a text is cut at its first separator, and only a
  text without one is not cut.
* `eq_of_around?` : the parts of a cut make up the text.
* `splitOn_flatMap_cons` : pieces with a separator before each are what is cut out at it.
-/

namespace DavGateway.Cut

/-- What follows `start` in a text that begins with it. -/
def after? : List Char → List Char → Option (List Char)
  | [], s => some s
  | _ :: _, [] => none
  | a :: start, b :: s => if a = b then after? start s else none

/-- What follows a beginning is the rest of the text. -/
theorem after?_eq_some_iff {start s rest : List Char} :
    after? start s = some rest ↔ s = start ++ rest := by
  induction start generalizing s with
  | nil => simp [after?]
  | cons a start ih =>
    cases s with
    | nil => simp [after?]
    | cons b s =>
      by_cases h : a = b
      · subst h
        simp [after?, ih]
      · simp [after?, h, Ne.symm h]

/-! ## Separators of one character -/

/-- The parts of a text before and behind the first `c` in it. -/
def atFirst? (c : Char) (s : List Char) : Option (List Char × List Char) :=
  match s.dropWhile (· ≠ c) with
  | _ :: rest => some (s.takeWhile (· ≠ c), rest)
  | [] => none

@[simp] theorem atFirst?_nil (c : Char) : atFirst? c [] = none := rfl

/-- A separator at the start is where the text is cut. -/
@[simp] theorem atFirst?_cons_self (c : Char) (s : List Char) :
    atFirst? c (c :: s) = some ([], s) := by
  simp [atFirst?]

/-- Any other character at the start belongs to the front. -/
theorem atFirst?_cons_of_ne {c d : Char} (h : d ≠ c) (s : List Char) :
    atFirst? c (d :: s) = (atFirst? c s).map fun parts => (d :: parts.1, parts.2) := by
  simp only [atFirst?, List.dropWhile_cons, List.takeWhile_cons, h, ne_eq, not_false_eq_true,
    decide_true, if_true]
  cases s.dropWhile (· ≠ c) <;> rfl

/-- A text is cut at the separator behind a front that has none. -/
theorem atFirst?_append {c : Char} {front : List Char} (h : c ∉ front) (back : List Char) :
    atFirst? c (front ++ c :: back) = some (front, back) := by
  induction front with
  | nil => simp
  | cons d front ih =>
    simp only [List.mem_cons, not_or] at h
    rw [List.cons_append, atFirst?_cons_of_ne (Ne.symm h.1), ih h.2]
    rfl

/-- Only a text without the separator is not cut. -/
theorem atFirst?_eq_none_iff {c : Char} {s : List Char} : atFirst? c s = none ↔ c ∉ s := by
  induction s with
  | nil => simp
  | cons d s ih =>
    by_cases h : d = c
    · subst h
      simp
    · rw [atFirst?_cons_of_ne h, Option.map_eq_none_iff, ih, List.mem_cons, not_or]
      exact ⟨fun hs => ⟨Ne.symm h, hs⟩, fun hs => hs.2⟩

/-! ## Separators of several characters -/

/-- The parts of a text before and behind the first `sep` in it. -/
def around? (sep : List Char) : List Char → Option (List Char × List Char)
  | [] => none
  | c :: rest =>
    match after? sep (c :: rest) with
    | some back => some ([], back)
    | none => (around? sep rest).map fun parts => (c :: parts.1, parts.2)

/-- The parts of a cut make up the text. -/
theorem eq_of_around? {sep s front back : List Char} (h : around? sep s = some (front, back)) :
    s = front ++ sep ++ back := by
  induction s generalizing front with
  | nil => simp [around?] at h
  | cons c s ih =>
    unfold around? at h
    split at h
    · next rest hs =>
      simp only [Option.some.injEq, Prod.mk.injEq] at h
      obtain ⟨rfl, rfl⟩ := h
      simpa using after?_eq_some_iff.1 hs
    · rw [Option.map_eq_some_iff] at h
      obtain ⟨⟨first, rest⟩, hs, he⟩ := h
      simp only [Prod.mk.injEq] at he
      obtain ⟨rfl, rfl⟩ := he
      rw [ih hs]
      rfl

/-! ## Cutting at every separator -/

/-- Pieces with a separator before each are cut out again, behind nothing. -/
theorem splitOn_flatMap_cons {c : Char} {pieces : List (List Char)} (h : ∀ p ∈ pieces, c ∉ p) :
    (pieces.flatMap (c :: ·)).splitOn c = [] :: pieces := by
  suffices general : ∀ front, c ∉ front →
      (front ++ pieces.flatMap (c :: ·)).splitOn c = front :: pieces from
    general [] List.not_mem_nil
  induction pieces with
  | nil =>
    intro front hfront
    rw [List.flatMap_nil, List.append_nil, List.splitOn_eq_singleton hfront]
  | cons p pieces ih =>
    intro front hfront
    rw [List.forall_mem_cons] at h
    rw [List.flatMap_cons, List.cons_append, List.splitOn_append_cons_self,
      List.splitOn_eq_singleton hfront, ih h.2 p h.1]
    rfl

end DavGateway.Cut
