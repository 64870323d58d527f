/-
# Chains

A chain is a list that is never empty: an outermost element and the causes
behind it, outer to inner.  Storage errors and the reports sent to clients are
both chains; `toList` is the view that their operations are stated through.

* `toList_injective` : a chain is its list of elements.
-/

namespace DavGateway

/-- A non-empty list, outermost element first. -/
structure Chain (α : Type) where
  outermost : α
  causes : List α := []
  deriving DecidableEq, Repr

namespace Chain

variable {α β : Type}

/-- The elements, outermost first. -/
def toList (c : Chain α) : List α := c.outermost :: c.causes

/-- A chain of one element. -/
def single (a : α) : Chain α := ⟨a, []⟩

/-- A list as a chain, unless it is empty. -/
def ofList? : List α → Option (Chain α)
  | [] => none
  | a :: as => some ⟨a, as⟩

/-- The chain with a new outermost element in front. -/
def push (a : α) (c : Chain α) : Chain α := ⟨a, c.toList⟩

/-- The element that is not caused by another. -/
def innermost (c : Chain α) : α := c.causes.getLastD c.outermost

/-- The number of elements. -/
def length (c : Chain α) : Nat := c.causes.length + 1

/-- Applies a function to every element. -/
def map (f : α → β) (c : Chain α) : Chain β := ⟨f c.outermost, c.causes.map f⟩

/-! ## The view as a list -/

@[simp] theorem toList_mk (a : α) (as : List α) : toList ⟨a, as⟩ = a :: as := rfl

@[simp] theorem toList_single (a : α) : (single a).toList = [a] := rfl

@[simp] theorem toList_push (a : α) (c : Chain α) : (c.push a).toList = a :: c.toList := rfl

theorem toList_ne_nil (c : Chain α) : c.toList ≠ [] := List.cons_ne_nil _ _

/-- Listing the elements and taking the list as a chain gives the chain back. -/
theorem ofList?_toList (c : Chain α) : ofList? c.toList = some c := rfl

/-- Chains with the same elements are equal. -/
theorem toList_injective {c d : Chain α} (h : c.toList = d.toList) : c = d :=
  Option.some.inj ((ofList?_toList c).symm.trans ((congrArg ofList? h).trans (ofList?_toList d)))

theorem innermost_eq_getLast (c : Chain α) : c.innermost = c.toList.getLast c.toList_ne_nil := by
  obtain ⟨a, as⟩ := c
  cases as with
  | nil => rfl
  | cons b bs =>
    simp [innermost, List.getLastD_eq_getLast?, List.getLast?_eq_some_getLast]

theorem innermost_mem (c : Chain α) : c.innermost ∈ c.toList := by
  rw [innermost_eq_getLast]
  exact List.getLast_mem c.toList_ne_nil

/-- A chain is what stands around its innermost element, and that element. -/
theorem dropLast_append_innermost (c : Chain α) : c.toList.dropLast ++ [c.innermost] = c.toList := by
  rw [innermost_eq_getLast]
  exact List.dropLast_concat_getLast c.toList_ne_nil

end Chain

end DavGateway
