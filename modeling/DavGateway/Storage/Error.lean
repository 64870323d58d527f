/-
# Storage errors

A storage error is a chain of links.  Each link has a kind with a numeric code,
and a message of its own or the default text of its kind.  Trace links only
record the way an error took; `purge` removes them, but never empties a chain.

* `toList_purge` : the links that are left, from what rebuilding the chain keeps at each link.
-/
import DavGateway.Chain
import DavGateway.Text.Decimal

namespace DavGateway

/-! ## Kinds -/

/-- The kind of a failure. -/
inductive FailureKind
  /-- No failure of its own: a note of the way the error took. -/
  | trace
  | notFound
  | noSuchRevision
  | unsupportedFeature
  | lockOwnerMismatch
  | pathAlreadyLocked
  | propBaseValueMismatch
  /-- A hook written by the operator refused the operation. -/
  | hookFailure
  | malformedUri
  | connectionAborted
  | requestFailed
  /-- Any other failure, by its code. -/
  | other (code : Int)
  deriving DecidableEq, Repr

namespace FailureKind

/-- The code of a request that failed for no known reason. -/
def requestFailedCode : Int := 175002

/-- The numeric code of a kind.  A code does not determine the kind. -/
def code : FailureKind → Int
  | trace => 0
  | notFound => 160013
  | noSuchRevision => 160006
  | unsupportedFeature => 200007
  | lockOwnerMismatch => 160039
  | pathAlreadyLocked => 160035
  | propBaseValueMismatch => 160049
  | hookFailure => 165001
  | malformedUri => 190001
  | connectionAborted => 190004
  | requestFailed => requestFailedCode
  | other code => code

/-- The text of a link that has no message of its own. -/
def defaultText : FailureKind → String
  | trace => "Traced call"
  | notFound => "Filesystem has no item"
  | noSuchRevision => "Invalid filesystem revision number"
  | unsupportedFeature => "Trying to use an unsupported feature"
  | lockOwnerMismatch => "Username does not match lock owner"
  | pathAlreadyLocked => "Path is already locked"
  | propBaseValueMismatch =>
    "Value of property in the repository differs from the expected base value"
  | hookFailure => "Repository hook failed"
  | malformedUri => "The URI is malformed"
  | connectionAborted => "The client connection was aborted"
  | requestFailed => "The HTTP request failed"
  | other _ => "Unknown error"

/-- The label of a kind in diagnostics. -/
def label (k : FailureKind) : String := "E" ++ Decimal.intText k.code

end FailureKind

/-! ## Links and chains of them -/

/-- One link of a storage error. -/
structure Link where
  kind : FailureKind
  message : Option String := none
  deriving DecidableEq, Repr

/-- The link's own message, or else the default text of its kind. -/
def Link.text (l : Link) : String := l.message.getD l.kind.defaultText

/-- Whether the link is a trace link. -/
def Link.isTrace (l : Link) : Bool := l.kind = .trace

/-- A storage error: links, outermost first. -/
abbrev StorageError := Chain Link

namespace StorageError

/-- The text of the outermost link. -/
def text (e : StorageError) : String := e.outermost.text

/-- Whether some link of the error has the kind. -/
def hasCause (e : StorageError) (k : FailureKind) : Bool := e.toList.any (·.kind = k)

/-! ### Purging -/

/-- What purging has rebuilt of an error: its links so far, and whether they are only a trace link
that holds the place of another one. -/
structure Rebuilt where
  error : StorageError
  placeholder : Bool

namespace Rebuilt

/-- Rebuilding begins with the innermost link; a trace link is a placeholder. -/
def start (innermost : Link) : Rebuilt := ⟨.single innermost, innermost.isTrace⟩

/-- The next link outwards is put in front, or in the place of a placeholder; a trace link is left
out. -/
def relink (l : Link) (r : Rebuilt) : Rebuilt :=
  if l.isTrace then r
  else ⟨if r.placeholder then .single l else r.error.push l, false⟩

/-- What rebuilding keeps of links down to an innermost one. -/
structure Keeps (r : Rebuilt) (links : List Link) (innermost : Link) : Prop where
  placeholder_eq : r.placeholder = links.all Link.isTrace
  toList_eq : r.error.toList =
    if links.all Link.isTrace then [innermost] else links.filter fun l => !l.isTrace

theorem keeps_start (innermost : Link) : (start innermost).Keeps [innermost] innermost := by
  constructor
  · simp [start]
  · by_cases h : innermost.isTrace <;> simp [start, h]

/-- Rebuilding keeps what it should with one more link. -/
theorem Keeps.relink {r : Rebuilt} {links : List Link} {innermost : Link}
    (h : r.Keeps links innermost) (l : Link) : (relink l r).Keeps (l :: links) innermost := by
  unfold Rebuilt.relink
  by_cases hl : l.isTrace
  · -- a trace link changes neither side
    rw [if_pos hl]
    constructor
    · rw [h.placeholder_eq, List.all_cons, hl, Bool.true_and]
    · rw [h.toList_eq]
      simp [hl]
  · rw [if_neg hl]
    constructor
    · simp [hl]
    · rw [h.placeholder_eq]
      by_cases hall : links.all Link.isTrace
      · -- the placeholder goes, and there is nothing behind it
        have hnone : links.filter (fun l => !l.isTrace) = [] := by
          simpa [List.filter_eq_nil_iff] using hall
        simp [hl, hall, hnone]
      · have hkept : r.error.toList = links.filter fun l => !l.isTrace := by
          rw [h.toList_eq, if_neg hall]
        simp [hl, hall, hkept]

/-- Rebuilding keeps what it should, however many links there are. -/
theorem keeps_foldr (outer : List Link) (innermost : Link) :
    (outer.foldr Rebuilt.relink (start innermost)).Keeps (outer ++ [innermost]) innermost := by
  induction outer with
  | nil => exact keeps_start innermost
  | cons l outer ih => exact ih.relink l

end Rebuilt

/-- Removes the trace links; of an error that has no other links the innermost one stays.  The
error is rebuilt from the innermost link outwards. -/
def purge (e : StorageError) : StorageError :=
  (e.toList.dropLast.foldr Rebuilt.relink (.start e.innermost)).error

/-- The links that `purge` leaves. -/
theorem toList_purge (e : StorageError) :
    (purge e).toList =
      if e.toList.all Link.isTrace then [e.innermost] else e.toList.filter fun l => !l.isTrace := by
  have h := Rebuilt.keeps_foldr e.toList.dropLast e.innermost
  rw [e.dropLast_append_innermost] at h
  exact h.toList_eq

end StorageError

end DavGateway
