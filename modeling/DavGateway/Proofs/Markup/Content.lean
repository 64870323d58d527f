/-
# Content of elements

What stands between two tags is well formed if no tag begins in it and every
ampersand begins a reference.  Text that is not escaped may have no references
in it at all: then every ampersand is one too many, although a lenient reader
takes it for itself.

* `Referenced.flatMap` : references are those of the pieces that a text is made of.
* `Unreferenced.isContent_iff` : content that has no references.
-/
import DavGateway.Text.Markup

namespace DavGateway.Markup

/-! ## Well-formed content -/

/-- The names of the entities that every document knows. -/
def entityNames : List String := ["lt", "gt", "amp", "quot", "apos"]

/-- The number of a character: decimal, or hexadecimal behind an `x`. -/
def isCharacterNumber : List Char → Bool
  | 'x' :: digits =>
    digits ≠ [] && digits.all fun c => c.isDigit || "abcdefABCDEF".toList.contains c
  | digits => digits ≠ [] && digits.all Char.isDigit

/-- What a reference holds between `&` and `;`: the number of a character or the name of an
entity. -/
def isReference : List Char → Bool
  | '#' :: number => isCharacterNumber number
  | name => entityNames.contains (String.ofList name)

/-- Every `&` of a text begins a reference, up to its semicolon, and what stands between the two is
of one sort. -/
def Referenced (sort : List Char → Prop) (text : List Char) : Prop :=
  ∀ front back, text = front ++ '&' :: back →
    ∃ name rest, sort name ∧ back = name ++ ';' :: rest

section Referenced

variable {sort : List Char → Prop}

theorem referenced_of_not_mem {text : List Char} (hamp : '&' ∉ text) : Referenced sort text := by
  intro front back h
  apply absurd _ hamp
  rw [h]
  exact List.mem_append_right front List.mem_cons_self

/-- A text behind another brings its references with it. -/
theorem Referenced.append {s t : List Char} (hs : Referenced sort s) (ht : Referenced sort t) :
    Referenced sort (s ++ t) := by
  intro front back h
  rcases List.append_eq_append_iff.1 h with ⟨middle, -, hmore⟩ | ⟨middle, hfront, hback⟩
  · exact ht middle back hmore
  · cases middle with
    | nil => exact ht [] back hback.symm
    | cons c middle =>
      -- a reference that begins in the first text ends in it
      obtain ⟨rfl, rfl⟩ := List.cons.inj hback
      obtain ⟨name, rest, hname, rfl⟩ := hs front middle hfront
      exact ⟨name, rest ++ t, hname, by simp⟩

/-- In one reference there is one `&`. -/
theorem referenced_reference {name : List Char} (hname : sort name) (hamp : '&' ∉ name) :
    Referenced sort ('&' :: name ++ [';']) := by
  intro front back h
  cases front with
  | nil =>
    obtain ⟨-, rfl⟩ := List.cons.inj h
    exact ⟨name, [], hname, rfl⟩
  | cons c front =>
    have hcut : name ++ [';'] = front ++ '&' :: back := (List.cons.inj h).2
    have hmem : '&' ∈ name ++ [';'] := by
      rw [hcut]
      simp
    simp [hamp] at hmem

/-- References are those of the pieces that a text is made of. -/
theorem Referenced.flatMap {s : List Char} {f : Char → List Char}
    (h : ∀ c ∈ s, Referenced sort (f c)) : Referenced sort (s.flatMap f) := by
  induction s with
  | nil => exact referenced_of_not_mem List.not_mem_nil
  | cons c s ih =>
    rw [List.forall_mem_cons] at h
    rw [List.flatMap_cons]
    exact h.1.append (ih h.2)

end Referenced

/-- Well-formed content of an element that holds text alone: no tag begins in it, and every `&`
begins a reference. -/
structure IsContent (text : List Char) : Prop where
  lt_not_mem : '<' ∉ text
  reference : ∀ front back, text = front ++ '&' :: back →
    ∃ name rest, isReference name = true ∧ back = name ++ ';' :: rest

/-- Text without `<` and `&` is content. -/
theorem isContent_of_not_mem {text : List Char} (hlt : '<' ∉ text) (hamp : '&' ∉ text) :
    IsContent text := ⟨hlt, referenced_of_not_mem hamp⟩

/-! ## Text without references -/

/-- No `;` stands behind an `&`, to end a reference that begins there. -/
def Unreferenced (text : List Char) : Prop :=
  ∀ front back, text = front ++ '&' :: back → ';' ∉ back

/-- Text without references is content only if there is no `&` in it. -/
theorem Unreferenced.isContent_iff {text : List Char} (h : Unreferenced text)
    (hlt : '<' ∉ text) : IsContent text ↔ '&' ∉ text := by
  refine ⟨fun hcontent hmem => ?_, isContent_of_not_mem hlt⟩
  obtain ⟨front, back, htext⟩ := List.append_of_mem hmem
  obtain ⟨name, rest, -, hback⟩ := hcontent.reference front back htext
  apply h front back htext
  rw [hback]
  exact List.mem_append_right name List.mem_cons_self

/-- Text without references is read as it is. -/
theorem Unreferenced.unescape_eq {text : List Char} (h : Unreferenced text) :
    unescape text = text := by
  induction text with
  | nil => rfl
  | cons c text ih =>
    have hrest : unescape text = text := by
      apply ih
      intro front back htext
      exact h (c :: front) back (by rw [htext]; rfl)
    by_cases hc : c = '&'
    · subst hc
      have hnone : ';' ∉ text := h [] text rfl
      -- each of the four entities would end in a semicolon
      unfold unescape
      split
      · next heq => cases heq; simp at hnone
      · next heq => cases heq; simp at hnone
      · next heq => cases heq; simp at hnone
      · next heq => cases heq; simp at hnone
      · next heq => cases heq; rw [hrest]
      · next heq => cases heq
    · rw [unescape_cons hc, hrest]

end DavGateway.Markup
