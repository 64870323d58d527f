/-
# From a request URI to its target

A request URI is cut down to its path, the path is brought to normal form, and
what follows the root is read as an item or as a resource of the special area.
Query and fragment play no part.

* `Revision.ofDigits?_eq_some_iff` : the revisions that are read.
-/
import DavGateway.Path.Normal
import DavGateway.Resource.Build
import DavGateway.Uri.Absolute

namespace DavGateway

/-- The path that a request URI asks for: its own text up to the query if it begins with a
slash, else the path of the absolute URI that it has to be. -/
def requestPath? (uri : List Char) : Option (List Char) :=
  let uri := uri.takeWhile (· ≠ '#')
  match uri with
  | '/' :: _ => some (uri.takeWhile (· ≠ '?'))
  | _ => Uri.path? uri

/-- Reads a revision: digits after at most one plus sign, in the range of revisions. -/
def Revision.ofDigits? (s : List Char) : Option Revision :=
  (Decimal.unsigned? s).bind fun n => if n < UInt64.size then some (UInt64.ofNat n) else none

/-- Just the numbers of revisions are read; any other is out of range. -/
theorem Revision.ofDigits?_eq_some_iff {s : List Char} {revision : Revision} :
    Revision.ofDigits? s = some revision ↔ Decimal.unsigned? s = some revision.toNat := by
  unfold Revision.ofDigits?
  cases Decimal.unsigned? s with
  | none => simp
  | some n =>
    rw [Option.bind_some, Option.some_inj]
    constructor
    · intro h
      split at h
      · next hn =>
        obtain rfl := Option.some.inj h
        exact (UInt64.toNat_ofNat_of_lt hn).symm
      · cases h
    · rintro rfl
      rw [if_pos revision.toNat_lt, UInt64.ofNat_toNat]

/-- A revision is read back from its digits. -/
theorem Revision.ofDigits?_digits (revision : Revision) :
    Revision.ofDigits? revision.digits = some revision :=
  ofDigits?_eq_some_iff.2 (Decimal.unsigned?_digits _)

/-- Decodes the path of an item. -/
def decodePath (path : List Char) : Except UriError String :=
  match Percent.decode? path with
  | some path => .ok (String.ofList path)
  | none => .error .undecodable

/-- Reads the revision of a version URI. -/
def readRevision (digits : List Char) : Except UriError Revision :=
  match Revision.ofDigits? digits with
  | some revision => .ok revision
  | none => .error .unparsable

/-- The target of a version URI, from what follows the kind: a revision and maybe a path.  The
revision is read first. -/
def versionTarget (rest : List Char) : Except UriError Target :=
  match Cut.atFirst? '/' rest with
  | none => (readRevision rest).map fun revision => .version revision "/"
  | some (digits, path) =>
    match readRevision digits with
    | .error e => .error e
    | .ok revision => (decodePath ('/' :: path)).map (.version revision)

/-- The target in the special area, from what follows the special segment.  Only activities and
the two kinds of version can be asked for. -/
def specialTarget (rest : List Char) : Except UriError Target :=
  match Cut.atFirst? '/' (rest.drop 1) with
  | none => .error .unsupportedForm
  | some (kind, rest) =>
    if rest = [] then .error .unsupportedForm
    else if kind = "act".toList then .ok (.activity (String.ofList rest))
    else if kind = "ver".toList ∨ kind = "rvr".toList then versionTarget rest
    else .error .unsupportedForm

/-- The target of a path in normal form. -/
def Mount.locate (m : Mount) (path : List Char) : Except UriError Target :=
  match Path.after? m.base path with
  | none => .error .outsideMount
  | some rest =>
    if rest.drop 1 = [] then .ok (.item "/")
    else
      match Path.after? m.special.toList (rest.drop 1) with
      | none => (decodePath rest).map .item
      | some special => specialTarget special

/-- The target of a request URI. -/
def Mount.resolve (m : Mount) (uri : String) : Except UriError Target :=
  match requestPath? uri.toList with
  | none => .error .unparsable
  | some path => m.locate (Path.normalize path)

end DavGateway
