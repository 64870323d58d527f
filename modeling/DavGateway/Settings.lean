/-
# Settings of one location

A draft is filled in field by field and checked once; the settings that come
out of the check have a mount that is well formed and an output buffer.
-/
import DavGateway.Resource.Basic
import DavGateway.Text.Decimal
import DavGateway.Text.Quoted

namespace DavGateway

/-- Settings that have passed the check. -/
structure Settings where
  mount : Mount
  /-- The limit of request bodies in bytes; zero for none. -/
  bodyLimit : Nat
  /-- The directory that all repositories lie in. -/
  parentDirectory : Option String
  /-- Whether that directory may be listed. -/
  listParent : Bool
  outputBuffer : Nat
  mount_valid : mount.Valid
  outputBuffer_pos : 0 < outputBuffer

/-- Settings as they are asked for. -/
structure Settings.Draft where
  root : String := "/"
  special : String := "!svn"
  bodyLimit : Nat := 1000000
  parentDirectory : Option String := none
  listParent : Bool := false
  outputBuffer : Nat := 8192

/-- Why a draft does not pass. -/
inductive SettingsError
  | invalidRoot (root : String)
  | invalidSpecial (special : String)
  | invalidBuffer
  deriving DecidableEq, Repr

/-- The text of a settings error. -/
def SettingsError.message : SettingsError → String
  | invalidRoot root => "root path must start with '/', got " ++ Quoted.text root
  | invalidSpecial special =>
    "special uri must be a single non-empty segment, got " ++ Quoted.text special
  | invalidBuffer => "output buffer size must be positive"

/-- A list without the elements at its end that satisfy `p`. -/
def dropLastWhile {α : Type} (p : α → Bool) (l : List α) : List α := (l.reverse.dropWhile p).reverse

/-- A root path without the slashes at its end; a root of slashes alone is one slash. -/
def trimRoot (root : String) : String :=
  match dropLastWhile (· = '/') root.toList with
  | [] => "/"
  | kept => String.ofList kept

theorem getLast?_dropLastWhile {α : Type} (p : α → Bool) (l : List α) {a : α}
    (h : (dropLastWhile p l).getLast? = some a) : p a = false := by
  rw [dropLastWhile, List.getLast?_reverse] at h
  have := List.head?_dropWhile_not p l.reverse
  rw [h] at this
  simpa using this

theorem head?_dropLastWhile {α : Type} (p : α → Bool) (l : List α)
    (h : dropLastWhile p l ≠ []) : (dropLastWhile p l).head? = l.head? := by
  have parts : dropLastWhile p l ++ (l.reverse.takeWhile p).reverse = l := by
    rw [dropLastWhile, ← List.reverse_append, List.takeWhile_append_dropWhile, List.reverse_reverse]
  obtain ⟨b, bs, hb⟩ := List.exists_cons_of_ne_nil h
  rw [hb] at parts ⊢
  rw [← parts]
  rfl

/-- A trimmed root ends in a slash only if it is one. -/
theorem getLast?_trimRoot (root : String) :
    trimRoot root = "/" ∨ (trimRoot root).toList.getLast? ≠ some '/' := by
  unfold trimRoot
  split
  · exact .inl rfl
  · refine .inr fun h => ?_
    rw [String.toList_ofList] at h
    exact absurd (getLast?_dropLastWhile _ _ h) (by decide)

/-- A trimmed root begins with a slash if the root does. -/
theorem head?_trimRoot {root : String} (h : root.toList.head? = some '/') :
    (trimRoot root).toList.head? = some '/' := by
  unfold trimRoot
  split
  · rfl
  · next ne =>
    rw [String.toList_ofList, head?_dropLastWhile _ _ ne, h]

namespace Settings

/-- Checks a draft.  Of several faults the first in the order root, special segment, buffer is
reported. -/
def Draft.check (d : Draft) : Except SettingsError Settings :=
  if root : d.root.toList.head? = some '/' then
    if special : d.special ≠ "" ∧ '/' ∉ d.special.toList then
      if buffer : 0 < d.outputBuffer then
        .ok
          { mount := ⟨trimRoot d.root, d.special⟩
            bodyLimit := d.bodyLimit
            parentDirectory := d.parentDirectory
            listParent := d.listParent
            outputBuffer := d.outputBuffer
            mount_valid := ⟨head?_trimRoot root, getLast?_trimRoot d.root, special⟩
            outputBuffer_pos := buffer }
      else .error .invalidBuffer
    else .error (.invalidSpecial d.special)
  else .error (.invalidRoot d.root)

/-- The limit of request bodies, if there is one. -/
def bodyLimit? (s : Settings) : Option Nat := if s.bodyLimit = 0 then none else some s.bodyLimit

/-- A text without one slash at its end. -/
def trimSlash (s : List Char) : List Char := if s.getLast? = some '/' then s.dropLast else s

/-- Whether a URI asks for the listing of the parent directory. -/
def listsParent (s : Settings) (uri : String) : Bool :=
  s.parentDirectory.isSome && s.listParent && trimSlash s.mount.root.toList = trimSlash uri.toList

end Settings

end DavGateway
