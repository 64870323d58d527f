/-
# Repository handles

A handle serves one request.  It asks its storage for the youngest revision
until there is an answer and keeps that answer, and it finds an older revision
that may stand in for a given one.
-/
import DavGateway.Event
import DavGateway.Resource.Resolve
import DavGateway.Settings

namespace DavGateway

/-- How a path at one revision relates to the same path at another. -/
inductive NodeRelation
  /-- The very same node. -/
  | unchanged
  /-- The same item, changed in between. -/
  | commonAncestor
  | unrelated
  deriving DecidableEq, Repr

/-- The questions that a handle asks of a storage. -/
class Storage (σ : Type) where
  youngest : σ → Except StorageError Revision × σ
  /-- The last revision up to the given one that changed a path. -/
  lastHistory : σ → Revision → String → Except StorageError Revision × σ
  relation : σ → Revision → Revision → String → Except StorageError NodeRelation × σ

/-- A repository, opened for one request. -/
structure Repository (σ : Type) where
  storage : σ
  mount : Mount
  /-- The youngest revision, once it is known. -/
  known : Option Revision := none

namespace Repository

variable {σ : Type} [Storage σ]

/-- A handle on the repository of a location. -/
def ofSettings (storage : σ) (settings : Settings) : Repository σ :=
  { storage := storage, mount := settings.mount }

/-- The youngest revision: the known one, or else what the storage says. -/
def youngest (r : Repository σ) : Except StorageError Revision × Repository σ :=
  match r.known with
  | some revision => (.ok revision, r)
  | none =>
    match Storage.youngest r.storage with
    | (.ok revision, storage) =>
      (.ok revision, { r with storage := storage, known := some revision })
    | (.error e, storage) => (.error e, { r with storage := storage })

/-- An answer of a handle that cannot fail. -/
structure Answer (σ : Type) where
  revision : Revision
  repository : Repository σ
  events : List Event := []

/-- The oldest revision that can stand in for the given one at a path: the one that last changed
the path, if the node is unchanged since.  If the storage cannot tell, the given one. -/
def createdRevision (r : Repository σ) (revision : Revision) (path : String) : Answer σ :=
  match Storage.lastHistory r.storage revision path with
  | (.error e, storage) =>
    { revision := revision
      repository := { r with storage := storage }
      events := [.historyFailed e revision path] }
  | (.ok history, storage) =>
    match Storage.relation storage revision history path with
    | (.ok .unchanged, storage) =>
      { revision := history, repository := { r with storage := storage } }
    | (.ok _, storage) => { revision := revision, repository := { r with storage := storage } }
    | (.error e, storage) =>
      { revision := revision
        repository := { r with storage := storage }
        events := [.comparisonFailed e revision history path] }

end Repository

end DavGateway
