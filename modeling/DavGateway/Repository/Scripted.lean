/-
# Scripted and recorded storages

A storage in memory that gives prepared answers, and a recorder that keeps the
questions put to any storage and its answers.
-/
import DavGateway.Repository.Basic

namespace DavGateway

/-! ## Prepared answers -/

/-- Prepared answers: those on the youngest revision one after the other, the others by what is
asked. -/
structure ScriptedStorage where
  youngest : List (Except StorageError Revision) := []
  history : List ((Revision × String) × Except StorageError Revision) := []
  relations : List ((Revision × Revision × String) × Except StorageError NodeRelation) := []

namespace ScriptedStorage

/-- The answer to a question that nothing was prepared for. -/
def unprepared : StorageError := .single ⟨.notFound, "no script"⟩

instance : Storage ScriptedStorage where
  youngest s :=
    match s.youngest with
    | [] => (.error unprepared, s)
    | answer :: rest => (answer, { s with youngest := rest })
  lastHistory s revision path :=
    ((s.history.lookup (revision, path)).getD (.error unprepared), s)
  relation s a b path := ((s.relations.lookup (a, b, path)).getD (.error unprepared), s)

end ScriptedStorage

/-! ## Recorded questions -/

/-- A question put to a storage. -/
inductive StorageCall
  | youngest
  | lastHistory (revision : Revision) (path : String)
  | relation (a b : Revision) (path : String)
  deriving DecidableEq, Repr

/-- A question put to a storage, with its answer. -/
inductive Exchange
  | youngest (answer : Except StorageError Revision)
  | lastHistory (revision : Revision) (path : String) (answer : Except StorageError Revision)
  | relation (a b : Revision) (path : String) (answer : Except StorageError NodeRelation)

/-- The question of an exchange. -/
def Exchange.call : Exchange → StorageCall
  | youngest _ => .youngest
  | lastHistory revision path _ => .lastHistory revision path
  | relation a b path _ => .relation a b path

/-- A storage and the exchanges with it, in order. -/
structure RecordedStorage (σ : Type) where
  inner : σ
  exchanges : List Exchange := []

namespace RecordedStorage

variable {σ : Type}

/-- The questions put to the storage, in order. -/
def calls (s : RecordedStorage σ) : List StorageCall := s.exchanges.map Exchange.call

/-- The storage after one more exchange, with the answer to it. -/
def record {α : Type} (s : RecordedStorage σ) (exchange : α → Exchange) (answer : α × σ) :
    α × RecordedStorage σ :=
  (answer.1, { inner := answer.2, exchanges := s.exchanges ++ [exchange answer.1] })

instance [Storage σ] : Storage (RecordedStorage σ) where
  youngest s := s.record .youngest (Storage.youngest s.inner)
  lastHistory s revision path :=
    s.record (.lastHistory revision path) (Storage.lastHistory s.inner revision path)
  relation s a b path := s.record (.relation a b path) (Storage.relation s.inner a b path)

end RecordedStorage

end DavGateway
