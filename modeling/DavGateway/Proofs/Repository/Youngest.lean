/-
# The youngest revision over a run

A handle goes through calls in any order, over a storage that may fail, recover
and change by itself.  Each call makes a turn: what was asked of storage in its
course, with the answers, and what the caller got.  Of the handle itself a turn
depends on one thing, what is known of the youngest revision: storage is asked
for it until there is an answer, and this answer is given from then on.

* `Repository.Step` : which turns can be made with what is known, and what is known after them.
* `Repository.step_turn` : every turn of a handle is such a step.
* `Repository.turns_settle_youngest` : how the calls for the youngest revision go over a run, and
  what the revisions that stand in for others rest on.
-/
import DavGateway.Repository.Scripted

namespace DavGateway.Repository

variable {σ : Type}

/-! ## Calls and turns -/

/-- Something that happens to a handle. -/
inductive Call (σ : Type)
  | youngest
  | createdRevision (revision : Revision) (path : String)
  | uri (resource : Resource)
  | href (resource : Resource)
  | target (uri : String)
  /-- The storage changes by itself: others commit, it fails or recovers. -/
  | storageChange (change : σ → σ)

/-- Whether a call is one for the youngest revision. -/
def Call.isYoungest : Call σ → Bool
  | .youngest => true
  | _ => false

/-- What a caller gets. -/
inductive Reply
  | youngest (answer : Except StorageError Revision)
  | created (revision : Revision)
  | text (text : String)
  | target (result : Except UriError Target)
  /-- Nobody has called. -/
  | none

/-- A call, what storage was asked and answered in its course, and what the caller got. -/
structure Turn (σ : Type) where
  call : Call σ
  exchanges : List Exchange
  reply : Reply

namespace Turn

/-- Storage was asked for its youngest revision, and what it said was given on. -/
def asked (said : Except StorageError Revision) : Turn σ :=
  ⟨.youngest, [.youngest said], .youngest said⟩

/-- The youngest revision was given without asking. -/
def recalled (revision : Revision) : Turn σ := ⟨.youngest, [], .youngest (.ok revision)⟩

end Turn

/-! ## Revisions that stand in for others -/

/-- How the revision that stands in for another at a path follows from what storage answers. -/
inductive StandsIn (revision : Revision) (path : String) : List Exchange → Revision → Prop
  | noHistory (e : StorageError) :
    StandsIn revision path [.lastHistory revision path (.error e)] revision
  | notCompared (history : Revision) (e : StorageError) :
    StandsIn revision path
      [.lastHistory revision path (.ok history), .relation revision history path (.error e)]
      revision
  | changed (history : Revision) {relation : NodeRelation} (h : relation ≠ .unchanged) :
    StandsIn revision path
      [.lastHistory revision path (.ok history), .relation revision history path (.ok relation)]
      revision
  | unchanged (history : Revision) :
    StandsIn revision path
      [.lastHistory revision path (.ok history), .relation revision history path (.ok .unchanged)]
      history

/-- Another revision than the given one stands in only if storage said that it is the last one
that changed the path, and that the node is unchanged between the two. -/
theorem StandsIn.eq_or_unchanged {revision stand : Revision} {path : String}
    {exchanges : List Exchange} (h : StandsIn revision path exchanges stand) :
    stand = revision ∨
      exchanges = [.lastHistory revision path (.ok stand),
        .relation revision stand path (.ok .unchanged)] := by
  cases h with
  | noHistory e => exact .inl rfl
  | notCompared history e => exact .inl rfl
  | changed history hne => exact .inl rfl
  | unchanged => exact .inr rfl

/-! ## Steps -/

/-- The turns that can be made with what is known of the youngest revision, and what is known after
them. -/
inductive Step : Option Revision → Turn σ → Option Revision → Prop
  | asked (said : Except StorageError Revision) : Step none (.asked said) said.toOption
  | recalled (revision : Revision) : Step (some revision) (.recalled revision) (some revision)
  | created (known : Option Revision) {revision stand : Revision} {path : String}
    {exchanges : List Exchange} (h : StandsIn revision path exchanges stand) :
    Step known ⟨.createdRevision revision path, exchanges, .created stand⟩ known
  /-- All else asks nothing. -/
  | silent (known : Option Revision) {call : Call σ} (reply : Reply)
    (hyoungest : call.isYoungest = false)
    (hcreated : ∀ revision path, call ≠ .createdRevision revision path) :
    Step known ⟨call, [], reply⟩ known

namespace Step

variable {known known' : Option Revision} {t : Turn σ}

/-- What is known changes with the calls for the youngest revision only. -/
theorem known_eq (h : Step known t known') (hcall : t.call.isYoungest = false) :
    known' = known := by
  cases h with
  | asked said => cases hcall
  | recalled revision => rfl
  | created known hstands => rfl
  | silent known reply hyoungest hcreated => rfl

/-- Storage is asked for its youngest revision in no other call. -/
theorem youngest_not_mem (h : Step known t known') (hcall : t.call.isYoungest = false)
    (said : Except StorageError Revision) : .youngest said ∉ t.exchanges := by
  cases h with
  | asked said => cases hcall
  | recalled revision => cases hcall
  | created known hstands => cases hstands <;> simp
  | silent known reply hyoungest hcreated => exact List.not_mem_nil

/-- Once the youngest revision is known, the calls for it give it. -/
theorem eq_recalled {revision : Revision} (h : Step (some revision) t known')
    (hcall : t.call.isYoungest = true) : t = .recalled revision ∧ known' = some revision := by
  cases h with
  | recalled => exact ⟨rfl, rfl⟩
  | created known hstands => cases hcall
  | silent known reply hyoungest hcreated =>
    rw [hyoungest] at hcall
    cases hcall

/-- As long as it is not known, storage is asked for it. -/
theorem exists_eq_asked (h : Step none t known') (hcall : t.call.isYoungest = true) :
    ∃ said, t = .asked said ∧ known' = said.toOption := by
  cases h with
  | asked said => exact ⟨said, rfl, rfl⟩
  | created known hstands => cases hcall
  | silent known reply hyoungest hcreated =>
    rw [hyoungest] at hcall
    cases hcall

/-- Which revision stands in for another follows from what storage says in the same turn. -/
theorem standsIn {revision : Revision} {path : String} (h : Step known t known')
    (hcall : t.call = .createdRevision revision path) :
    ∃ stand, t.reply = .created stand ∧ StandsIn revision path t.exchanges stand := by
  cases h with
  | asked said => cases hcall
  | recalled revision => cases hcall
  | created known hstands =>
    cases hcall
    exact ⟨_, rfl, hstands⟩
  | silent known reply hyoungest hcreated => exact absurd hcall (hcreated _ _)

end Step

/-! ## The turns of a handle -/

variable [Storage σ]

/-- What a call is answered, and the handle after it. -/
def answer (r : Repository (RecordedStorage σ)) :
    Call σ → Reply × Repository (RecordedStorage σ)
  | .youngest => (.youngest r.youngest.1, r.youngest.2)
  | .createdRevision revision path =>
    let created := r.createdRevision revision path
    (.created created.revision, created.repository)
  | .uri resource => (.text (r.mount.uri resource), r)
  | .href resource => (.text (r.mount.href resource), r)
  | .target uri => (.target (r.mount.resolve uri), r)
  | .storageChange change =>
    (.none, { r with storage := { r.storage with inner := change r.storage.inner } })

/-- The handle after a call. -/
def after (r : Repository (RecordedStorage σ)) (call : Call σ) : Repository (RecordedStorage σ) :=
  (r.answer call).2

/-- The turn of a call, with the exchanges that it adds to the record. -/
def turn (r : Repository (RecordedStorage σ)) (call : Call σ) : Turn σ :=
  { call := call
    exchanges := (r.after call).storage.exchanges.drop r.storage.exchanges.length
    reply := (r.answer call).1 }

variable {r : Repository (RecordedStorage σ)}

/-- A known youngest revision is given, and nothing happens. -/
theorem youngest_of_known {revision : Revision} (h : r.known = some revision) :
    r.youngest = (.ok revision, r) := by
  simp only [Repository.youngest, h]

/-- If the youngest revision is not known, storage is asked, and its answer is known from then
on. -/
theorem youngest_of_unknown (h : r.known = none) :
    r.youngest.2.known = r.youngest.1.toOption ∧
      r.youngest.2.storage.exchanges = r.storage.exchanges ++ [.youngest r.youngest.1] := by
  have hrecord : Storage.youngest r.storage =
    r.storage.record .youngest (Storage.youngest r.storage.inner) := rfl
  simp only [Repository.youngest, h, hrecord, RecordedStorage.record]
  cases (Storage.youngest r.storage.inner).1 with
  | ok revision => exact ⟨rfl, rfl⟩
  | error e => exact ⟨rfl, rfl⟩

/-- Storage is asked for the history, and then to compare if it has one. -/
theorem standsIn_createdRevision (r : Repository (RecordedStorage σ)) (revision : Revision)
    (path : String) :
    let created := r.createdRevision revision path
    ∃ more, StandsIn revision path more created.revision ∧
      created.repository.storage.exchanges = r.storage.exchanges ++ more ∧
      created.repository.known = r.known := by
  -- the recorder passes the questions on to the storage inside, so the cases are on its answers
  have hhistory : Storage.lastHistory r.storage revision path = r.storage.record
    (.lastHistory revision path) (Storage.lastHistory r.storage.inner revision path) := rfl
  have hrelation : ∀ (s : RecordedStorage σ) (history : Revision),
    Storage.relation s revision history path =
      s.record (.relation revision history path)
        (Storage.relation s.inner revision history path) := fun _ _ => rfl
  simp only [createdRevision, hhistory, hrelation, RecordedStorage.record]
  cases (Storage.lastHistory r.storage.inner revision path).1 with
  | error e => exact ⟨_, .noHistory e, rfl, rfl⟩
  | ok history =>
    dsimp only
    cases (Storage.relation (Storage.lastHistory r.storage.inner revision path).2 revision history
      path).1 with
    | error e => exact ⟨_, .notCompared history e, List.append_assoc .., rfl⟩
    | ok relation =>
      cases relation with
      | unchanged => exact ⟨_, .unchanged history, List.append_assoc .., rfl⟩
      | commonAncestor => exact ⟨_, .changed history (by decide), List.append_assoc .., rfl⟩
      | unrelated => exact ⟨_, .changed history (by decide), List.append_assoc .., rfl⟩

/-- What is known of the youngest revision plays no part for the revisions that stand in. -/
theorem turn_createdRevision_withKnown (r : Repository (RecordedStorage σ))
    (known : Option Revision) (revision : Revision) (path : String) :
    { r with known := known }.turn (.createdRevision revision path) =
      r.turn (.createdRevision revision path) := by
  simp only [turn, after, answer, createdRevision]
  split
  · rfl
  · split <;> rfl

/-- A call puts exchanges behind those on record, and makes a step with them. -/
theorem step_after (r : Repository (RecordedStorage σ)) (call : Call σ) :
    ∃ more, (r.after call).storage.exchanges = r.storage.exchanges ++ more ∧
      Step r.known ⟨call, more, (r.answer call).1⟩ (r.after call).known := by
  cases call with
  | youngest =>
    rw [after, answer]
    cases hknown : r.known with
    | some revision =>
      rw [youngest_of_known hknown, hknown]
      exact ⟨[], (List.append_nil _).symm, .recalled revision⟩
    | none =>
      obtain ⟨hafter, hexchanges⟩ := youngest_of_unknown hknown
      rw [hafter]
      exact ⟨_, hexchanges, .asked _⟩
  | createdRevision revision path =>
    obtain ⟨more, hstands, hexchanges, hknown⟩ := standsIn_createdRevision r revision path
    rw [after, answer, hknown]
    exact ⟨more, hexchanges, .created _ hstands⟩
  | uri resource => exact ⟨[], (List.append_nil _).symm, .silent _ _ rfl nofun⟩
  | href resource => exact ⟨[], (List.append_nil _).symm, .silent _ _ rfl nofun⟩
  | target uri => exact ⟨[], (List.append_nil _).symm, .silent _ _ rfl nofun⟩
  | storageChange change => exact ⟨[], (List.append_nil _).symm, .silent _ _ rfl nofun⟩

/-- Every turn of a handle is a step. -/
theorem step_turn (r : Repository (RecordedStorage σ)) (call : Call σ) :
    Step r.known (r.turn call) (r.after call).known := by
  obtain ⟨more, hexchanges, hstep⟩ := step_after r call
  rwa [turn, hexchanges, List.drop_left]

/-- The record of a handle grows by the exchanges of the turn. -/
theorem exchanges_after (r : Repository (RecordedStorage σ)) (call : Call σ) :
    (r.after call).storage.exchanges = r.storage.exchanges ++ (r.turn call).exchanges := by
  obtain ⟨more, hexchanges, -⟩ := step_after r call
  rw [turn, hexchanges, List.drop_left]

/-! ## Runs -/

/-- The handle after some calls. -/
def run (r : Repository (RecordedStorage σ)) (calls : List (Call σ)) :
    Repository (RecordedStorage σ) :=
  calls.foldl after r

/-- The turns of some calls, in their order. -/
def turns (r : Repository (RecordedStorage σ)) : List (Call σ) → List (Turn σ)
  | [] => []
  | call :: calls => r.turn call :: (r.after call).turns calls

/-- Those turns of some calls that are made for the youngest revision. -/
def youngestTurns (r : Repository (RecordedStorage σ)) (calls : List (Call σ)) : List (Turn σ) :=
  (r.turns calls).filter (·.call.isYoungest)

/-- Every turn of a run is a step. -/
theorem exists_step_of_mem_turns {calls : List (Call σ)} {t : Turn σ} (h : t ∈ r.turns calls) :
    ∃ known known', Step known t known' := by
  induction calls generalizing r with
  | nil => cases h
  | cons call calls ih =>
    rcases List.mem_cons.1 h with rfl | h
    · exact ⟨_, _, step_turn r call⟩
    · exact ih h

/-- The record of a handle grows by the exchanges of all turns. -/
theorem exchanges_run (r : Repository (RecordedStorage σ)) (calls : List (Call σ)) :
    (r.run calls).storage.exchanges =
      r.storage.exchanges ++ (r.turns calls).flatMap Turn.exchanges := by
  induction calls generalizing r with
  | nil => exact (List.append_nil _).symm
  | cons call calls ih =>
    rw [run, List.foldl_cons, ← run, ih, exchanges_after, turns, List.flatMap_cons,
      List.append_assoc]

theorem youngestTurns_cons_of_isYoungest {call : Call σ} (h : call.isYoungest = true)
    (calls : List (Call σ)) :
    r.youngestTurns (call :: calls) = r.turn call :: (r.after call).youngestTurns calls :=
  List.filter_cons_of_pos h

theorem youngestTurns_cons_of_not_isYoungest {call : Call σ} (h : call.isYoungest = false)
    (calls : List (Call σ)) :
    r.youngestTurns (call :: calls) = (r.after call).youngestTurns calls :=
  List.filter_cons_of_neg (by simpa [turn] using h)

/-- A known youngest revision is given to the end of the run. -/
theorem youngestTurns_of_known {revision : Revision} (h : r.known = some revision)
    (calls : List (Call σ)) :
    ∃ repeats, r.youngestTurns calls = List.replicate repeats (.recalled revision) := by
  induction calls generalizing r with
  | nil => exact ⟨0, rfl⟩
  | cons call calls ih =>
    have hstep := step_turn r call
    rw [h] at hstep
    cases hcall : call.isYoungest with
    | true =>
      obtain ⟨hturn, hknown⟩ := hstep.eq_recalled hcall
      obtain ⟨repeats, hrepeats⟩ := ih hknown
      refine ⟨repeats + 1, ?_⟩
      rw [youngestTurns_cons_of_isYoungest hcall, hturn, hrepeats, List.replicate_succ]
    | false =>
      rw [youngestTurns_cons_of_not_isYoungest hcall]
      exact ih (hstep.known_eq hcall)

/-- While the youngest revision is not known, storage's errors are given on, and its first answer is
given to the end of the run. -/
theorem youngestTurns_of_unknown (h : r.known = none) (calls : List (Call σ)) :
    ∃ errors : List StorageError,
      r.youngestTurns calls = errors.map (fun e => .asked (.error e)) ∨
      ∃ revision repeats, r.youngestTurns calls = errors.map (fun e => .asked (.error e)) ++
        .asked (.ok revision) :: List.replicate repeats (.recalled revision) := by
  -- a later part of the run begins with another handle, still one that knows nothing
  induction calls generalizing r with
  | nil => exact ⟨[], .inl rfl⟩
  | cons call calls ih =>
    have hstep := step_turn r call
    rw [h] at hstep
    cases hcall : call.isYoungest with
    | true =>
      rw [youngestTurns_cons_of_isYoungest hcall]
      obtain ⟨said, hturn, hknown⟩ := hstep.exists_eq_asked hcall
      rw [hturn]
      cases said with
      | ok revision =>
        obtain ⟨repeats, hrepeats⟩ := youngestTurns_of_known hknown calls
        exact ⟨[], .inr ⟨revision, repeats, by rw [hrepeats]; rfl⟩⟩
      | error e =>
        obtain ⟨errors, hnever | ⟨revision, repeats, honce⟩⟩ := ih hknown
        · exact ⟨e :: errors, .inl (by rw [hnever]; rfl)⟩
        · exact ⟨e :: errors, .inr ⟨revision, repeats, by rw [honce]; rfl⟩⟩
    | false =>
      rw [youngestTurns_cons_of_not_isYoungest hcall]
      exact ih (hstep.known_eq hcall)

/-- **The youngest revision is asked for until there is one, and then kept.**  Whatever calls come
in whatever order, those for the youngest revision ask storage and give its errors on, up to the
first that it answers, and all later ones give this answer and ask nothing; no other call asks for
it, and nothing is asked but in turns.  The revision that stands in for another is that one itself,
or the one that storage reported as the last to change the path and, compared with it at that path,
as unchanged; what is known of the youngest revision plays no part in it. -/
theorem turns_settle_youngest (storage : σ) (settings : Settings) (calls : List (Call σ)) :
    let start : Repository (RecordedStorage σ) := ofSettings { inner := storage } settings
    (∃ errors : List StorageError,
      start.youngestTurns calls = errors.map (fun e => .asked (.error e)) ∨
      ∃ revision repeats, start.youngestTurns calls = errors.map (fun e => .asked (.error e)) ++
        .asked (.ok revision) :: List.replicate repeats (.recalled revision)) ∧
    (∀ t ∈ start.turns calls, t.call.isYoungest = false →
      ∀ said, .youngest said ∉ t.exchanges) ∧
    (start.run calls).storage.exchanges = (start.turns calls).flatMap Turn.exchanges ∧
    (∀ t ∈ start.turns calls, ∀ revision path, t.call = .createdRevision revision path →
      ∃ stand, t.reply = .created stand ∧ StandsIn revision path t.exchanges stand ∧
        (stand = revision ∨
          t.exchanges = [.lastHistory revision path (.ok stand),
            .relation revision stand path (.ok .unchanged)])) ∧
    ∀ known revision path,
      { start.run calls with known := known }.turn (.createdRevision revision path) =
        (start.run calls).turn (.createdRevision revision path) := by
  intro start
  refine ⟨youngestTurns_of_unknown rfl calls, ?_, exchanges_run start calls, ?_,
    turn_createdRevision_withKnown _⟩
  · intro t ht hcall
    obtain ⟨_, _, hstep⟩ := exists_step_of_mem_turns ht
    exact hstep.youngest_not_mem hcall
  · intro t ht revision path hcall
    obtain ⟨_, _, hstep⟩ := exists_step_of_mem_turns ht
    obtain ⟨stand, hreply, hstands⟩ := hstep.standsIn hcall
    exact ⟨stand, hreply, hstands, hstands.eq_or_unchanged⟩

/-- A storage that is locked at first, answers seven, and later has nine revisions. -/
theorem turns_settle_youngest_unlocked :
    let locked : StorageError := .single ⟨.other 1, "db locked"⟩
    let storage : ScriptedStorage :=
      { youngest := [.error locked, .ok 7]
        history := [((6, "/trunk/a"), .ok 2)]
        relations := [((6, 2, "/trunk/a"), .ok .unchanged)] }
    let settings : Settings :=
      { mount := ⟨"/", "!svn"⟩, bodyLimit := 0, parentDirectory := none, listParent := false,
        outputBuffer := 1, mount_valid := by decide, outputBuffer_pos := by decide }
    let start : Repository (RecordedStorage ScriptedStorage) :=
      ofSettings { inner := storage } settings
    let calls : List (Call ScriptedStorage) :=
      [.youngest, .createdRevision 6 "/trunk/a", .youngest,
        .storageChange fun s => { s with youngest := [.ok 9] }, .youngest]
    let t := (start.after .youngest).turn (.createdRevision 6 "/trunk/a")
    start.youngestTurns calls = [.asked (.error locked), .asked (.ok 7), .recalled 7] ∧
      t ∈ start.turns calls ∧ t.call.isYoungest = false ∧ (∀ said, .youngest said ∉ t.exchanges) ∧
      t.call = .createdRevision 6 "/trunk/a" ∧ t.reply = .created 2 ∧
      t.exchanges =
        [.lastHistory 6 "/trunk/a" (.ok 2), .relation 6 2 "/trunk/a" (.ok .unchanged)] := by
  intro locked storage settings start calls t
  obtain ⟨-, hothers, -, hcreated, -⟩ := turns_settle_youngest storage settings calls
  have hmem : t ∈ start.turns calls := .tail _ (.head _)
  have hreply : t.reply = .created 2 := rfl
  refine ⟨rfl, hmem, rfl, hothers t hmem rfl, rfl, hreply, ?_⟩
  -- two is not the given revision, so it has to be the one that storage reported
  obtain ⟨stand, hstand, -, rfl | hexchanges⟩ := hcreated t hmem 6 "/trunk/a" rfl
  · rw [hreply] at hstand
    cases hstand
  · rw [hreply] at hstand
    cases hstand
    exact hexchanges

end DavGateway.Repository
