/-
# Bodies within a limit

Reading a body under a limit gives its content as long as that is within the
limit, and otherwise ends at the first frame that fails or brings the content
above it.  What is answered, how often the body is asked for a frame, and that
no later frame plays a part, follows from the frames alone.

* `BoundedBody.Holds` : a body holds the content of the frames read so far.
* `BoundedBody.readFrames_append` : reading gets past frames that stay within the limit.
* `readBody_bounded` : the readings under a limit, for every body.
-/
import DavGateway.Body.Read
import Mathlib.Data.Nat.Find

namespace DavGateway

/-! ## Frames and limits -/

/-- The bytes of a frame; only frames of data have any. -/
def Frame.bytes : Frame → List UInt8
  | .data bytes => bytes
  | .trailers | .failed _ => []

/-- The text that a frame fails with, if it does. -/
def Frame.cause? : Frame → Option String
  | .failed cause => some cause
  | .data _ | .trailers => none

/-- The content of frames, in their order. -/
def content (frames : List Frame) : List UInt8 := frames.flatMap Frame.bytes

@[simp] theorem content_append (front back : List Frame) :
    content (front ++ back) = content front ++ content back := List.flatMap_append

@[simp] theorem content_singleton (f : Frame) : content [f] = f.bytes := List.flatMap_singleton _ _

/-- Whether a length is above a limit; nothing is above no limit, or above a limit of zero. -/
def Exceeds (limit : Option Nat) (length : Nat) : Prop := ∃ l ∈ limit, 0 < l ∧ l < length

instance (limit : Option Nat) (length : Nat) : Decidable (Exceeds limit length) :=
  inferInstanceAs (Decidable (∃ l ∈ limit, 0 < l ∧ l < length))

theorem not_exceeds_zero (limit : Option Nat) : ¬ Exceeds limit 0 := by
  rintro ⟨l, -, -, hl⟩
  exact absurd hl (Nat.not_lt_zero l)

theorem Exceeds.mono {limit : Option Nat} {m n : Nat} (h : Exceeds limit m) (hmn : m ≤ n) :
    Exceeds limit n := by
  obtain ⟨l, hlimit, hpos, hlt⟩ := h
  exact ⟨l, hlimit, hpos, by omega⟩

/-- Whether reading gets past frames: none fails, and they stay within the limit. -/
def Passes (limit : Option Nat) (frames : List Frame) : Prop :=
  (∀ f ∈ frames, f.cause? = none) ∧ ¬ Exceeds limit (content frames).length

/-- Whether the frame at an index fails, or the content up to it is above the limit. -/
def StopsAt (limit : Option Nat) (frames : List Frame) (i : Nat) : Prop :=
  ∃ f ∈ frames[i]?, f.cause?.isSome ∨ Exceeds limit (content (frames.take (i + 1))).length

instance (limit : Option Nat) (frames : List Frame) (i : Nat) :
    Decidable (StopsAt limit frames i) :=
  inferInstanceAs (Decidable (∃ f ∈ frames[i]?, _ ∨ _))

/-- Whether reading stops at an index and not before. -/
def FirstStop (limit : Option Nat) (frames : List Frame) (i : Nat) : Prop :=
  StopsAt limit frames i ∧ ∀ j < i, ¬ StopsAt limit frames j

instance (limit : Option Nat) (frames : List Frame) (i : Nat) :
    Decidable (FirstStop limit frames i) :=
  inferInstanceAs (Decidable (_ ∧ ∀ j < i, _))

/-- The error that a frame stops reading with: its own, or that of the limit. -/
def StopError (limit : Option Nat) (f : Frame) (e : BodyError) : Prop :=
  match f.cause? with
  | some cause => e = .failed cause
  | none => ∃ l, e = .tooLarge l ∧ limit = some l

/-- Frames at which reading does not stop are got past. -/
theorem passes_take {limit : Option Nat} {frames : List Frame} {i : Nat} (hi : i ≤ frames.length)
    (h : ∀ j < i, ¬ StopsAt limit frames j) : Passes limit (frames.take i) := by
  constructor
  · intro f hf
    obtain ⟨j, hj, rfl⟩ := List.getElem_of_mem hf
    rw [List.length_take] at hj
    rw [List.getElem_take]
    by_contra hcause
    exact h j (by omega) ⟨frames[j], List.getElem?_eq_getElem _,
      .inl (Option.isSome_iff_ne_none.2 hcause)⟩
  · cases i with
    | zero => exact not_exceeds_zero limit
    | succ j =>
      intro hexceeds
      exact h j (by omega) ⟨frames[j], List.getElem?_eq_getElem _, .inr hexceeds⟩

/-- Frames that nothing stops are got past. -/
theorem passes_of_not_stopsAt {limit : Option Nat} {frames : List Frame}
    (h : ∀ i, ¬ StopsAt limit frames i) : Passes limit frames := by
  have hall := passes_take (Nat.le_refl frames.length) fun j _ => h j
  rwa [List.take_length] at hall

/-- Where reading stops at all, it stops first somewhere. -/
theorem exists_firstStop {limit : Option Nat} {frames : List Frame} {i : Nat}
    (h : StopsAt limit frames i) : ∃ j, FirstStop limit frames j := by
  have hex : ∃ j, StopsAt limit frames j := ⟨i, h⟩
  exact ⟨Nat.find hex, Nat.find_spec hex, fun j hj => Nat.find_min hex hj⟩

/-- Content above the limit stops reading, at the last frame at the latest. -/
theorem exists_firstStop_of_exceeds {limit : Option Nat} {frames : List Frame}
    (h : Exceeds limit (content frames).length) : ∃ j, FirstStop limit frames j := by
  rcases List.eq_nil_or_concat frames with rfl | ⟨front, f, rfl⟩
  · exact absurd h (not_exceeds_zero limit)
  · refine exists_firstStop (i := front.length) ⟨f, by simp, .inr ?_⟩
    rwa [List.concat_eq_append, List.take_of_length_le (by simp), ← List.concat_eq_append]

/-! ## Reading frame by frame -/

/-- What a body is after frames that reading got past: it keeps their content. -/
structure BoundedBody.Holds (b : BoundedBody) (limit : Option Nat) (frames : List Frame) :
    Prop where
  kept_eq : b.kept = content frames
  totalRead_eq : b.totalRead = (content frames).length
  limit_eq : b.limit = limit.filter (0 < ·)

/-- The limit of a body is the one that a length can be above. -/
theorem BoundedBody.exceeded?_eq_some_iff {b : BoundedBody} {limit : Option Nat}
    (h : b.limit = limit.filter (0 < ·)) {n l : Nat} :
    b.exceeded? n = some l ↔ limit = some l ∧ 0 < l ∧ l < n := by
  rw [exceeded?, h, Option.filter_eq_some_iff, Option.filter_eq_some_iff]
  simp [and_assoc]

/-- A body lets through just what is not above the limit. -/
theorem BoundedBody.exceeded?_eq_none_iff {b : BoundedBody} {limit : Option Nat}
    (h : b.limit = limit.filter (0 < ·)) {n : Nat} :
    b.exceeded? n = none ↔ ¬ Exceeds limit n := by
  rw [Option.eq_none_iff_forall_ne_some]
  simp only [Ne, exceeded?_eq_some_iff h]
  exact not_exists.symm

/-- The reading that follows more frames and their events. -/
def Reading.afterFrames (r : Reading) (frames : Nat) (events : List Event) : Reading :=
  { r with polls := r.polls + frames, events := events ++ r.events }

namespace BoundedBody

variable {b : BoundedBody} {limit : Option Nat} {done : List Frame}

/-- A piece within the limit is kept. -/
theorem push_of_exceeded?_eq_none {chunk : List UInt8}
    (h : b.exceeded? (b.totalRead + chunk.length) = none) :
    b.push chunk =
      { result := .ok ()
        body :=
          { b with kept := b.kept ++ chunk, totalRead := b.totalRead + chunk.length } } := by
  have hcount : (b.count chunk.length).exceeded? (b.count chunk.length).totalRead = none := h
  simp only [push, hcount]
  rfl

/-- A piece above the limit is refused. -/
theorem push_of_exceeded?_eq_some {chunk : List UInt8} {l : Nat}
    (h : b.exceeded? (b.totalRead + chunk.length) = some l) :
    b.push chunk =
      { result := .error (.tooLarge l)
        body := b.count chunk.length
        events := [.bodyTooLarge l] } := by
  have hcount : (b.count chunk.length).exceeded? (b.count chunk.length).totalRead = some l := h
  simp only [push, hcount]

/-- Reading gets past a frame that neither fails nor exceeds the limit. -/
theorem readFrames_cons_of_passes (h : b.Holds limit done) {f : Frame}
    (hf : Passes limit (done ++ [f])) :
    ∃ (b' : BoundedBody) (events : List Event), b'.Holds limit (done ++ [f]) ∧
      ∀ rest, b.readFrames (f :: rest) = (b'.readFrames rest).after events := by
  cases f with
  | data bytes =>
    have hwithin : b.exceeded? (b.totalRead + bytes.length) = none := by
      rw [exceeded?_eq_none_iff h.limit_eq]
      simpa [h.totalRead_eq, Frame.bytes] using hf.2
    refine ⟨{ b with kept := b.kept ++ bytes, totalRead := b.totalRead + bytes.length },
      [.chunkRead bytes.length], ⟨?_, ?_, h.limit_eq⟩, ?_⟩
    · simp [h.kept_eq, Frame.bytes]
    · simp [h.totalRead_eq, Frame.bytes]
    · intro rest
      rw [readFrames, push_of_exceeded?_eq_none hwithin]
  | trailers =>
    refine ⟨b, [], ⟨?_, ?_, h.limit_eq⟩, fun rest => rfl⟩
    · simp [h.kept_eq, Frame.bytes]
    · simp [h.totalRead_eq, Frame.bytes]
  | failed cause =>
    have hcause := hf.1 (.failed cause) (by simp)
    cases hcause

/-- Reading ends at a frame that exceeds the limit. -/
theorem readFrames_cons_of_exceeds (h : b.Holds limit done) (hdone : Passes limit done) {f : Frame}
    (hf : f.cause? = none) (hexceeds : Exceeds limit (content (done ++ [f])).length) :
    ∃ (l : Nat) (events : List Event), limit = some l ∧
      ∀ rest, b.readFrames (f :: rest) =
        { result := .error (.tooLarge l), polls := 1, events := events } := by
  cases f with
  | data bytes =>
    obtain ⟨l, hl⟩ := hexceeds
    have hexceeded : b.exceeded? (b.totalRead + bytes.length) = some l := by
      rw [exceeded?_eq_some_iff h.limit_eq]
      simpa [h.totalRead_eq, Frame.bytes] using hl
    refine ⟨l, [.chunkRead bytes.length, .bodyTooLarge l], hl.1, ?_⟩
    intro rest
    rw [readFrames, push_of_exceeded?_eq_some hexceeded]
  | trailers =>
    -- trailers add nothing to what is within the limit
    rw [content_append, content_singleton, Frame.bytes, List.append_nil] at hexceeds
    exact absurd hexceeds hdone.2
  | failed cause => cases hf

/-- Reading gets past frames of which none fails and which stay within the limit. -/
theorem readFrames_append (h : b.Holds limit done) {front : List Frame}
    (hfront : Passes limit (done ++ front)) :
    ∃ (b' : BoundedBody) (events : List Event), b'.Holds limit (done ++ front) ∧
      ∀ rest, b.readFrames (front ++ rest) =
        (b'.readFrames rest).afterFrames front.length events := by
  induction front generalizing b done with
  | nil =>
    refine ⟨b, [], ?_, fun rest => rfl⟩
    rw [List.append_nil]
    exact h
  | cons f front ih =>
    -- the limit counts from the first frame, so the frames read before are carried along
    have hsplit : done ++ f :: front = (done ++ [f]) ++ front := by simp
    have hf : Passes limit (done ++ [f]) := by
      refine ⟨fun g hg => hfront.1 g ?_, fun hexceeds => hfront.2 (hexceeds.mono ?_)⟩
      · rw [hsplit]
        exact List.mem_append_left _ hg
      · rw [hsplit, content_append (done ++ [f])]
        simp
    obtain ⟨b₁, first, hb₁, hstep⟩ := readFrames_cons_of_passes h hf
    rw [hsplit] at hfront ⊢
    obtain ⟨b₂, events, hb₂, hmore⟩ := ih hb₁ hfront
    refine ⟨b₂, first ++ events, hb₂, ?_⟩
    intro rest
    rw [List.cons_append, hstep, hmore]
    simp [Reading.after, Reading.afterFrames, Nat.add_assoc]

/-! ## Where reading stops -/

/-- Reading ends at a frame that fails or exceeds the limit, whatever comes after it. -/
theorem readFrames_cons_of_stops (h : b.Holds limit done) (hdone : Passes limit done) {f : Frame}
    (hf : f.cause?.isSome ∨ Exceeds limit (content (done ++ [f])).length) :
    ∃ (e : BodyError) (events : List Event), StopError limit f e ∧
      ∀ rest, b.readFrames (f :: rest) =
        { result := .error e, polls := 1, events := events } := by
  cases hcause : f.cause? with
  | some cause =>
    obtain rfl : f = .failed cause := by
      cases f with
      | failed cause' => exact congrArg Frame.failed (Option.some.inj hcause)
      | data | trailers => cases hcause
    exact ⟨.failed cause, [.bodyFailed cause], rfl, fun rest => rfl⟩
  | none =>
    rw [hcause] at hf
    rcases hf with hf | hexceeds
    · cases hf
    · obtain ⟨l, events, hlimit, hread⟩ := readFrames_cons_of_exceeds h hdone hcause hexceeds
      refine ⟨.tooLarge l, events, ?_, hread⟩
      rw [StopError, hcause]
      exact ⟨l, rfl, hlimit⟩

/-- Reading frames that nothing stops gives their content. -/
theorem readFrames_of_passes (h : b.Holds limit []) {frames : List Frame}
    (hframes : Passes limit frames) :
    (b.readFrames frames).result = .ok (content frames) ∧
      (b.readFrames frames).polls = frames.length + 1 := by
  have hall : Passes limit ([] ++ frames) := hframes
  obtain ⟨b', events, hb', hread⟩ := readFrames_append h hall
  have hend := hread []
  rw [List.append_nil] at hend
  rw [hend]
  exact ⟨congrArg Except.ok hb'.kept_eq, Nat.add_comm _ _⟩

/-- Reading stops at the first frame that fails or exceeds the limit, and no later frame plays a
part. -/
theorem readFrames_of_firstStop (h : b.Holds limit []) {frames : List Frame} {i : Nat}
    (hstop : FirstStop limit frames i) :
    ∃ (f : Frame) (e : BodyError) (r : Reading), frames[i]? = some f ∧ StopError limit f e ∧
      r.result = .error e ∧ r.polls = i + 1 ∧
      ∀ later, later.take (i + 1) = frames.take (i + 1) → b.readFrames later = r := by
  obtain ⟨⟨f, hf, hends⟩, hbefore⟩ := hstop
  -- the frames before the first stop are got past, and the one at it ends the reading
  have hi : i < frames.length := (List.getElem?_eq_some_iff.1 hf).1
  have hpasses : Passes limit ([] ++ frames.take i) := passes_take (Nat.le_of_lt hi) hbefore
  have htake : frames.take (i + 1) = frames.take i ++ [f] := by
    rw [List.take_add_one, hf]
    rfl
  rw [htake] at hends
  obtain ⟨b', events, hb', hread⟩ := readFrames_append h hpasses
  obtain ⟨e, last, he, hend⟩ := readFrames_cons_of_stops hb' hpasses hends
  refine ⟨f, e, { result := .error e, polls := 1 + (frames.take i).length, events := events ++ last },
    hf, he, rfl, ?_, ?_⟩
  · rw [List.length_take]
    show 1 + min i frames.length = i + 1
    omega
  · intro later hlater
    have hsplit : later = frames.take i ++ f :: later.drop (i + 1) := by
      calc later = later.take (i + 1) ++ later.drop (i + 1) := (List.take_append_drop _ _).symm
        _ = (frames.take i ++ [f]) ++ later.drop (i + 1) := by rw [hlater, htake]
        _ = frames.take i ++ f :: later.drop (i + 1) := List.append_cons _ _ _ |>.symm
    rw [hsplit, hread, hend]
    rfl

end BoundedBody

/-! ## Before reading -/

/-- Whether the declared length is refused: it is no length, or it is above the limit. -/
def Refused (header : Option (List UInt8)) (limit : Option Nat) : Prop :=
  ∃ value, header = some value ∧
    (declaredLength? value = none ∨ ∃ n, declaredLength? value = some n ∧ Exceeds limit n)

/-- Whether a reading fails with a fault. -/
def Reading.Fails (r : Reading) (fault : Fault) : Prop :=
  ∃ e, r.result = .error e ∧ e.fault = fault

/-- Whether a reading fails because the body is too large. -/
def Reading.FailsTooLarge (r : Reading) : Prop := ∃ reason, r.Fails (.entityTooLarge reason)

/-- A reading that stops fails with the frame's own text, or because the body is too large. -/
theorem StopError.fails {limit : Option Nat} {f : Frame} {e : BodyError} {r : Reading}
    (h : StopError limit f e) (hr : r.result = .error e) :
    (∀ cause, f = .failed cause → r.Fails (.badRequest cause)) ∧
      ((∀ cause, f ≠ .failed cause) → r.FailsTooLarge) := by
  cases f with
  | failed cause =>
    obtain rfl : e = .failed cause := h
    constructor
    · rintro _ ⟨⟩
      exact ⟨_, hr, rfl⟩
    · intro hnone
      exact absurd rfl (hnone cause)
  | data | trailers =>
    obtain ⟨l, rfl, -⟩ := h
    refine ⟨?_, fun _ => ⟨_, _, hr, rfl⟩⟩
    intro cause hcause
    cases hcause

/-- A new body holds nothing. -/
theorem BoundedBody.holds_nil (limit : Option Nat) :
    ({ limit := limit.filter (0 < ·) } : BoundedBody).Holds limit [] :=
  ⟨rfl, rfl, rfl⟩

/-- A declared length within the limit starts a body. -/
theorem BoundedBody.start_of_not_exceeds {declared : Nat} {limit : Option Nat}
    (h : ¬ Exceeds limit declared) :
    ∃ b : BoundedBody, b.Holds limit [] ∧ BoundedBody.start declared limit = (.ok b, []) := by
  refine ⟨_, holds_nil limit, ?_⟩
  unfold BoundedBody.start
  dsimp only
  split
  · next l hl => exact absurd ⟨l, (exceeded?_eq_some_iff (holds_nil limit).limit_eq).1 hl⟩ h
  · rfl

/-- A declared length above the limit starts no body. -/
theorem BoundedBody.start_of_exceeds {declared : Nat} {limit : Option Nat}
    (h : Exceeds limit declared) :
    ∃ l, BoundedBody.start declared limit =
      (.error (.declaredTooLarge declared l), [.declaredTooLarge declared l]) := by
  obtain ⟨l, hl⟩ := h
  refine ⟨l, ?_⟩
  unfold BoundedBody.start
  dsimp only
  rw [(exceeded?_eq_some_iff (holds_nil limit).limit_eq).2 hl]

/-- A body whose length is not refused is read frame by frame. -/
theorem readBody_of_not_refused {header : Option (List UInt8)} {limit : Option Nat}
    (h : ¬ Refused header limit) :
    ∃ b : BoundedBody, b.Holds limit [] ∧
      ∀ frames, readBody frames header limit = b.readFrames frames := by
  cases header with
  | none =>
    obtain ⟨b, hb, hstart⟩ := BoundedBody.start_of_not_exceeds (not_exceeds_zero limit)
    refine ⟨b, hb, ?_⟩
    intro frames
    simp only [readBody, hstart]
  | some value =>
    cases hvalue : declaredLength? value with
    | none => exact absurd ⟨value, rfl, .inl hvalue⟩ h
    | some n =>
      have hn : ¬ Exceeds limit n := fun hn => h ⟨value, rfl, .inr ⟨n, hvalue, hn⟩⟩
      obtain ⟨b, hb, hstart⟩ := BoundedBody.start_of_not_exceeds hn
      refine ⟨b, hb, ?_⟩
      intro frames
      simp only [readBody, declaredLength, hvalue, hstart]

/-- A body whose length is refused is not asked for a frame. -/
theorem readBody_of_refused {header : Option (List UInt8)} {limit : Option Nat}
    (h : Refused header limit) :
    ∃ r : Reading, r.FailsTooLarge ∧ r.polls = 0 ∧
      ∀ frames, readBody frames header limit = r := by
  obtain ⟨value, rfl, hvalue | ⟨n, hvalue, hexceeds⟩⟩ := h
  · let r : Reading :=
      { result := .error .invalidLength, polls := 0, events := [.invalidLength value] }
    refine ⟨r, ⟨_, _, rfl, rfl⟩, rfl, ?_⟩
    intro frames
    simp only [readBody, declaredLength, hvalue]
    rfl
  · obtain ⟨l, hstart⟩ := BoundedBody.start_of_exceeds hexceeds
    let r : Reading :=
      { result := .error (.declaredTooLarge n l), polls := 0, events := [.declaredTooLarge n l] }
    refine ⟨r, ⟨_, _, rfl, rfl⟩, rfl, ?_⟩
    intro frames
    simp only [readBody, declaredLength, hvalue, hstart]
    rfl

/-! ## Readings under a limit -/

/-- What reading bodies under a limit comes to, for a declared length and any frames. -/
structure BoundedReading (header : Option (List UInt8)) (limit : Option Nat)
    (read : List Frame → Reading) : Prop where
  /-- A refused length is too large, and no frame is asked for. -/
  refused : Refused header limit → ∀ frames, (read frames).FailsTooLarge ∧ (read frames).polls = 0
  /-- The first frame that fails or exceeds the limit decides, and later ones play no part. -/
  stopped : ¬ Refused header limit → ∀ frames i, FirstStop limit frames i →
    (read frames).polls = i + 1 ∧
      (∀ cause, frames[i]? = some (.failed cause) → (read frames).Fails (.badRequest cause)) ∧
      ((∀ cause, frames[i]? ≠ some (.failed cause)) → (read frames).FailsTooLarge) ∧
      ∀ later, later.take (i + 1) = frames.take (i + 1) → read later = read frames
  /-- Without such a frame the content is read, which is within the limit. -/
  whole : ¬ Refused header limit → ∀ frames, (∀ i, ¬ StopsAt limit frames i) →
    (read frames).result = .ok (content frames) ∧ ¬ Exceeds limit (content frames).length ∧
      (read frames).polls = frames.length + 1
  /-- How content is cut into frames does not matter if none fails. -/
  recut : ∀ frames frames', (∀ f ∈ frames, f.cause? = none) → (∀ f ∈ frames', f.cause? = none) →
    content frames = content frames' → (read frames).result = (read frames').result

/-- If no frame fails, the content of the frames alone decides. -/
theorem BoundedBody.result_readFrames {b : BoundedBody} {limit : Option Nat}
    (h : b.Holds limit []) {frames : List Frame} (hframes : ∀ f ∈ frames, f.cause? = none) :
    (b.readFrames frames).result =
      match b.exceeded? (content frames).length with
      | some l => .error (.tooLarge l)
      | none => .ok (content frames) := by
  cases hexceeded : b.exceeded? (content frames).length with
  | some l =>
    have hl := (exceeded?_eq_some_iff h.limit_eq).1 hexceeded
    obtain ⟨i, hi⟩ := exists_firstStop_of_exceeds ⟨l, hl⟩
    obtain ⟨f, e, r, hf, he, hresult, -, hread⟩ := readFrames_of_firstStop h hi
    rw [StopError, hframes f (List.mem_of_getElem? hf)] at he
    obtain ⟨l', rfl, hlimit⟩ := he
    obtain rfl : l' = l := Option.some.inj (hlimit.symm.trans hl.1)
    rw [hread frames rfl, hresult]
  | none =>
    -- within the limit at the end is within the limit all along
    exact (readFrames_of_passes h ⟨hframes, (exceeded?_eq_none_iff h.limit_eq).1 hexceeded⟩).1

/-- Reading a body under a limit is a bounded reading. -/
theorem boundedReading_of_readBody (header : Option (List UInt8)) (limit : Option Nat) :
    BoundedReading header limit fun frames => readBody frames header limit := by
  by_cases hrefused : Refused header limit
  · obtain ⟨r, htoo, hpolls, hread⟩ := readBody_of_refused hrefused
    simp only [hread]
    exact
      { refused := fun _ _ => ⟨htoo, hpolls⟩
        stopped := fun h => absurd hrefused h
        whole := fun h => absurd hrefused h
        recut := fun _ _ _ _ _ => rfl }
  · obtain ⟨b, hb, hread⟩ := readBody_of_not_refused hrefused
    simp only [hread]
    refine
      { refused := fun h => absurd h hrefused
        stopped := ?_
        whole := ?_
        recut := ?_ }
    · intro _ frames i hstop
      obtain ⟨f, e, r, hf, he, hresult, hpolls, hall⟩ := b.readFrames_of_firstStop hb hstop
      obtain ⟨hfailed, htoo⟩ := he.fails hresult
      rw [hall frames rfl, hf]
      refine ⟨hpolls, ?_, ?_, hall⟩
      · intro cause hcause
        exact hfailed cause (Option.some.inj hcause)
      · intro hnone
        exact htoo fun cause hcause => hnone cause (congrArg some hcause)
    · intro _ frames hnone
      have hpasses := passes_of_not_stopsAt hnone
      obtain ⟨hresult, hpolls⟩ := BoundedBody.readFrames_of_passes hb hpasses
      exact ⟨hresult, hpasses.2, hpolls⟩
    · intro frames frames' hframes hframes' hcontent
      rw [BoundedBody.result_readFrames hb hframes, BoundedBody.result_readFrames hb hframes',
        hcontent]

/-- A limit of zero is none. -/
theorem readBody_filter (frames : List Frame) (header : Option (List UInt8))
    (limit : Option Nat) :
    readBody frames header (limit.filter (0 < ·)) = readBody frames header limit := by
  have hfilter : (limit.filter (0 < ·)).filter (0 < ·) = limit.filter (0 < ·) := by
    rw [Option.filter_filter]
    simp
  have hstart : ∀ declared, BoundedBody.start declared (limit.filter (0 < ·)) =
      BoundedBody.start declared limit := by
    intro declared
    simp only [BoundedBody.start, hfilter]
  simp only [readBody, hstart]

/-- The limit of settings is what they hold, zero being none. -/
theorem Settings.bodyLimit?_eq (s : Settings) :
    s.bodyLimit? = (some s.bodyLimit).filter (0 < ·) := by
  rw [bodyLimit?, Option.filter_some]
  by_cases hzero : s.bodyLimit = 0
  · simp [hzero]
  · simp [hzero, Nat.pos_of_ne_zero hzero]

/-! ## The declared length of a request -/

/-- The first field of a name gives its value, whatever fields follow. -/
theorem Request.header?_of_first {front back : List (String × List UInt8)} {name asked : String}
    {value : List UInt8} (hfront : ∀ field ∈ front, field.1.toLower ≠ asked)
    (hname : name.toLower = asked) (frames : List Frame) :
    ({ headers := front ++ (name, value) :: back, frames := frames } : Request).header? asked =
      some value := by
  have hnone : front.find? (fun field => field.1.toLower = asked) = none := by
    simpa using hfront
  rw [header?, List.find?_append, hnone, Option.none_or,
    List.find?_cons_of_pos (by simpa using hname)]
  rfl

/-- Without a field of a name there is no value. -/
theorem Request.header?_of_absent {headers : List (String × List UInt8)} {asked : String}
    (h : ∀ field ∈ headers, field.1.toLower ≠ asked) (frames : List Frame) :
    ({ headers := headers, frames := frames } : Request).header? asked = none := by
  have hnone : headers.find? (fun field => field.1.toLower = asked) = none := by
    simpa using h
  rw [header?, hnone]
  rfl

/-- Reading requests whose fields give a length is a bounded reading under the limit of the
settings. -/
theorem boundedReading_of_header? {headers : List (String × List UInt8)}
    {header : Option (List UInt8)}
    (h : ∀ frames, ({ headers := headers, frames := frames } : Request).header? "content-length" =
      header) (settings : Settings) :
    BoundedReading header (some settings.bodyLimit) fun frames =>
      ({ headers := headers, frames := frames } : Request).readBody settings := by
  have hread : ∀ frames,
      ({ headers := headers, frames := frames } : Request).readBody settings =
        readBody frames header (some settings.bodyLimit) := by
    intro frames
    rw [Request.readBody, h frames, settings.bodyLimit?_eq, readBody_filter]
  simp only [hread]
  exact boundedReading_of_readBody header _

/-- **Bodies are read within a limit.**  Reading under a limit is a bounded reading.  So is that of
a request under the limit of its settings, by the value of its first field of content length,
whatever other such fields follow, or by none if it has no such field. -/
theorem readBody_bounded :
    (∀ (header : Option (List UInt8)) (limit : Option Nat),
      BoundedReading header limit fun frames => readBody frames header limit) ∧
    ∀ settings : Settings,
      (∀ (front back : List (String × List UInt8)) (name : String) (value : List UInt8),
        (∀ field ∈ front, field.1.toLower ≠ "content-length") →
        name.toLower = "content-length" →
        BoundedReading (some value) (some settings.bodyLimit) fun frames =>
          ({ headers := front ++ (name, value) :: back, frames := frames } :
            Request).readBody settings) ∧
      ∀ headers : List (String × List UInt8),
        (∀ field ∈ headers, field.1.toLower ≠ "content-length") →
        BoundedReading none (some settings.bodyLimit) fun frames =>
          ({ headers := headers, frames := frames } : Request).readBody settings := by
  refine ⟨boundedReading_of_readBody, ?_⟩
  intro settings
  constructor
  · intro front back name value hfront hname
    exact boundedReading_of_header? (Request.header?_of_first hfront hname) settings
  · intro headers habsent
    exact boundedReading_of_header? (Request.header?_of_absent habsent) settings

/-- The third frame brings a body above the limit; the failure behind it is not seen.  Of two
fields of content length the first decides, whatever the case of its name and whatever the second
declares, and a field of another name refuses nothing. -/
theorem readBody_bounded_third_frame :
    FirstStop (some 4) [.data [1, 2], .trailers, .data [3, 4, 5], .failed "reset"] 2 ∧
      (readBody [.data [1, 2], .trailers, .data [3, 4, 5], .failed "reset"] none (some 4)).polls
        = 3 ∧
      (Request.mk [("Host", [97]), ("Content-LENGTH", [57]), ("content-length", [50])]
          [.data [1]]).header? "content-length" = some [57] ∧
      (Request.readBody
          ⟨[("Host", [97]), ("Content-LENGTH", [57]), ("content-length", [50])], [.data [1]]⟩
          ⟨⟨"/", "!svn"⟩, 4, none, false, 1, by decide, by decide⟩).FailsTooLarge ∧
      (Request.readBody
          ⟨[("Content-Length", [50]), ("content-length", [57])], [.data [1], .data [2, 3]]⟩
          ⟨⟨"/", "!svn"⟩, 4, none, false, 1, by decide, by decide⟩).result = .ok [1, 2, 3] ∧
      (Request.readBody ⟨[("Host", [57])], [.data [1], .data [2, 3]]⟩
          ⟨⟨"/", "!svn"⟩, 4, none, false, 1, by decide, by decide⟩).result = .ok [1, 2, 3] := by
  have hstop : FirstStop (some 4) [.data [1, 2], .trailers, .data [3, 4, 5], .failed "reset"] 2 := by
    decide
  have habsent : ∀ limit, ¬ Refused none limit := by
    rintro limit ⟨value, hvalue, -⟩
    cases hvalue
  have hnine : Refused (some [57]) (some 4) := ⟨[57], rfl, .inr ⟨9, by decide, by decide⟩⟩
  have htwo : ¬ Refused (some [50]) (some 4) := by
    have hlength : declaredLength? [50] = some 2 := by decide
    rintro ⟨value, ⟨⟩, hvalue⟩
    rw [hlength] at hvalue
    rcases hvalue with hnone | ⟨n, ⟨⟩, hexceeds⟩
    · cases hnone
    · exact absurd hexceeds (by decide)
  have hpasses : ∀ i, ¬ StopsAt (some 4) [.data [1], .data [2, 3]] i := by
    rintro (_ | _ | i)
    · decide
    · decide
    · rintro ⟨f, hf, -⟩
      cases hf
  obtain ⟨hfirst, hnofield⟩ :=
    readBody_bounded.2 ⟨⟨"/", "!svn"⟩, 4, none, false, 1, by decide, by decide⟩
  refine ⟨hstop, ((readBody_bounded.1 none (some 4)).stopped (habsent _) _ 2 hstop).1,
    by decide +kernel, ?_, ?_, ?_⟩
  · exact ((hfirst [("Host", [97])] [("content-length", [50])] "Content-LENGTH" [57]
      (by decide +kernel) (by decide +kernel)).refused hnine _).1
  · exact ((hfirst [] [("content-length", [57])] "Content-Length" [50]
      (by simp) (by decide +kernel)).whole htwo _ hpasses).1
  · exact ((hnofield [("Host", [57])] (by decide +kernel)).whole (habsent _) _ hpasses).1

end DavGateway
