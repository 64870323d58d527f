/-
# Resources of a mounted repository

A repository is mounted under a root path.  Below it, ordinary paths name
items, and one reserved segment opens the special area, whose resources carry
revisions and activity ids.  `Resource` lists what a URI can be built for,
`Target` what a request URI can refer to.
-/

namespace DavGateway

/-- A revision number. -/
abbrev Revision := UInt64

/-- Where a repository is mounted: its root path and the segment that opens the special area.
Both are taken as they are; see `Mount.Valid` for what settings promise of them. -/
structure Mount where
  root : String
  special : String
  deriving DecidableEq, Repr

/-- The text that every URI of the mount begins with; a bare slash adds nothing. -/
def Mount.base (m : Mount) : List Char := if m.root = "/" then [] else m.root.toList

/-- What a mount of well-formed settings satisfies: the root begins with a slash and ends with
one only if it is one, and the special segment is a segment. -/
def Mount.Valid (m : Mount) : Prop :=
  m.root.toList.head? = some '/' ∧
    (m.root = "/" ∨ m.root.toList.getLast? ≠ some '/') ∧
    m.special ≠ "" ∧ '/' ∉ m.special.toList

instance (m : Mount) : Decidable m.Valid := inferInstanceAs (Decidable (_ ∧ _ ∧ _ ∧ _))

/-! ## What URIs are built for -/

/-- A resource that has a URI, with the data that its URI carries. -/
inductive Resource
  /-- The collection that activities are made in. -/
  | activities
  /-- A baseline of the repository. -/
  | baseline (revision : Revision)
  /-- A path in the tree of a baseline. -/
  | baselineCollection (revision : Revision) (path : String)
  /-- A path at no particular revision. -/
  | item (path : String)
  /-- A path as of a revision. -/
  | version (revision : Revision) (path : String)
  /-- A path below the root of a revision. -/
  | revisionRoot (revision : Revision) (path : String)
  /-- The one version-controlled configuration. -/
  | configuration
  deriving DecidableEq, Repr

/-- The kinds of resource. -/
inductive ResourceKind
  | activities | baseline | baselineCollection | item | version | revisionRoot | configuration
  deriving DecidableEq, Repr

/-- The resource of a kind at a revision and path.  A kind ignores what its URI does not carry,
and no path means the root. -/
def ResourceKind.resource (kind : ResourceKind) (revision : Revision) (path : Option String) :
    Resource :=
  let path := path.getD "/"
  match kind with
  | activities => .activities
  | baseline => .baseline revision
  | baselineCollection => .baselineCollection revision path
  | item => .item path
  | version => .version revision path
  | revisionRoot => .revisionRoot revision path
  | configuration => .configuration

/-! ## What request URIs refer to -/

/-- What a request URI refers to inside the repository. -/
inductive Target
  /-- A path at no particular revision. -/
  | item (path : String)
  /-- A path as of a revision. -/
  | version (revision : Revision) (path : String)
  /-- An activity, by the id as it stands in the URI. -/
  | activity (id : String)
  deriving DecidableEq, Repr

/-- The path inside the repository; an activity stands at the root. -/
def Target.path : Target → String
  | item path => path
  | version _ path => path
  | activity _ => "/"

/-- The revision, of a versioned target. -/
def Target.revision? : Target → Option Revision
  | version revision _ => some revision
  | _ => none

/-- The id, of an activity. -/
def Target.activity? : Target → Option String
  | activity id => some id
  | _ => none

/-- Why a request URI refers to nothing. -/
inductive UriError
  /-- It is no URI, or its revision is no number. -/
  | unparsable
  /-- Its path does not lie under the root. -/
  | outsideMount
  /-- Its path does not decode to text. -/
  | undecodable
  /-- It names a special resource that cannot be requested. -/
  | unsupportedForm
  deriving DecidableEq, Repr

/-- The text of a URI error. -/
def UriError.message : UriError → String
  | unparsable => "The specified URI could not be parsed"
  | outsideMount => "Unusable URI: it does not refer to this repository"
  | undecodable => "The URI path does not decode to valid UTF-8"
  | unsupportedForm => "Unsupported URI form"

end DavGateway
