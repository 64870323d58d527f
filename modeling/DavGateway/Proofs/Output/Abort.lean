/-
# The client has gone

An output looks for its client after each hand-over that went well.  Once it
saw the client gone it stays as it is: nothing is offered to the sink any more,
nothing is flushed, and every write is refused, whatever the sink may say later.

* `Session.aborted_after_iff` : the operations that see the client gone.
* `Session.run_of_aborted` : what a run does to an output that saw it.
* `Session.abort_latches` : both, over every run of every sink.
-/
import DavGateway.Proofs.Output.Conservation

namespace DavGateway

variable {σ : Type}

/-- Whether an operation writes to the output, be it through a stream. -/
def Operation.writes : Operation σ → Bool
  | .write _ | .puts _ | .putMany _ | .flush | .streamWrite _ | .streamFinish => true
  | .openStream | .settle _ | .sinkChange _ => false

/-- What becomes of a sink by itself in an operation. -/
def Operation.ownChange : Operation σ → σ → σ
  | .sinkChange change => change
  | .write _ | .puts _ | .putMany _ | .flush | .openStream | .streamWrite _ | .streamFinish
  | .settle _ => id

/-- What becomes of a sink by itself in the course of some operations. -/
def Operation.ownChanges (ops : List (Operation σ)) (sink : σ) : σ :=
  ops.foldl (fun k op => op.ownChange k) sink

variable [Sink σ]

/-! ## Flushes of a recorded sink -/

/-- Offers are no flushes. -/
theorem flushes_writeAll (r : Recorder σ) (data : List UInt8) :
    (writeAll r data).sink.flushes = r.flushes := by
  have hoffer : ∀ (r : Recorder σ) (data : List UInt8),
      (Sink.offer r data).2.flushes = r.flushes := by
    intro r data
    show (r.offer data).2.flushes = r.flushes
    unfold Recorder.offer
    split
    · rfl
    · rfl
  fun_induction writeAll r data with
  | case1 => rfl
  | case2 r data _ failure r' h => rw [← hoffer r data, h]
  | case3 r data _ r' h => rw [← hoffer r data, h]
  | case4 r data _ taken r' h ih => rw [ih, ← hoffer r data, h]

/-- A flush is counted if it goes well. -/
theorem flushes_flush (r : Recorder σ) :
    (Sink.flush r).2.flushes =
      match (Sink.flush r).1 with
      | .ok () => r.flushes + 1
      | .error _ => r.flushes := by
  show (r.flush).2.flushes = match (r.flush).1 with
    | .ok () => r.flushes + 1
    | .error _ => r.flushes
  unfold Recorder.flush
  split
  · rfl
  · rfl

namespace Output

/-! ## What a pass sees -/

/-- From one output to the other all that waited was handed over, and the sink was flushed
behind it. -/
structure HandedOver (o o' : Output (Recorder σ)) : Prop where
  received_eq : o'.sink.received = o.sink.received ++ o.buffer
  flushes_eq : o'.sink.flushes = o.sink.flushes + 1

/-- A hand-over either goes well, or ends without a flush. -/
theorem flushBuffer_cases (o : Output (Recorder σ)) :
    (∃ failure, o.flushBuffer.1 = .error failure ∧
        o.flushBuffer.2.sink.flushes = o.sink.flushes) ∨
      o.flushBuffer.1 = .ok () ∧ o.HandedOver o.flushBuffer.2 := by
  have hflushes := flushes_writeAll o.sink o.buffer
  rw [flushBuffer_eq]
  cases hresult : (writeAll o.sink o.buffer).result with
  | error failure => exact .inl ⟨failure, rfl, hflushes⟩
  | ok _ =>
    have hreceived := received_writeAll o.sink o.buffer
    rw [rest_writeAll_of_ok hresult, List.append_nil] at hreceived
    have hcount := flushes_flush o.delivered.sink
    dsimp only
    cases hflush : (Sink.flush o.delivered.sink).1 with
    | error failure =>
      rw [hflush] at hcount
      exact .inl ⟨failure, rfl, hcount.trans hflushes⟩
    | ok _ =>
      rw [hflush] at hcount
      exact .inr ⟨rfl, (received_flush _).trans hreceived,
        hcount.trans (congrArg (· + 1) hflushes)⟩

/-- A pass fails without a flush, or hands over and then finds the client there or gone. -/
theorem pass_cases (o : Output (Recorder σ)) :
    (∃ failure, o.pass.result = .error (.failed failure) ∧ o.pass.output.aborted = o.aborted ∧
        o.pass.output.sink.flushes = o.sink.flushes) ∨
      o.HandedOver o.pass.output ∧
        (Sink.isGone o.pass.output.sink = false ∧ o.pass.result = .ok () ∧
            o.pass.output.aborted = o.aborted ∨
          Sink.isGone o.pass.output.sink = true ∧ o.pass.result = .error .clientGone ∧
            o.pass.output.aborted = true) := by
  have hkept := o.aborted_flushBuffer
  have hcases := o.flushBuffer_cases
  unfold Output.pass
  split
  · next failure o' hflush =>
    rw [hflush] at hkept hcases
    obtain ⟨-, -, hflushes⟩ | ⟨hok, -⟩ := hcases
    · exact .inl ⟨failure, rfl, hkept, hflushes⟩
    · cases hok
  · next o' hflush =>
    rw [hflush] at hkept hcases
    obtain ⟨_, herror, -⟩ | ⟨-, hover⟩ := hcases
    · cases herror
    split
    · next hgone => exact .inr ⟨⟨hover.received_eq, hover.flushes_eq⟩, .inr ⟨hgone, rfl, rfl⟩⟩
    · next hthere => exact .inr ⟨hover, .inl ⟨Bool.eq_false_iff.2 hthere, rfl, hkept⟩⟩

/-- A pass of an output that has its client sees the client gone just if all was handed over
and the sink says so, and then it says so itself. -/
theorem aborted_pass_iff {o : Output (Recorder σ)} (h : o.aborted = false) :
    (o.pass.output.aborted = true ↔
      o.HandedOver o.pass.output ∧ Sink.isGone o.pass.output.sink = true) ∧
    (o.pass.output.aborted = true → o.pass.result = .error .clientGone) := by
  obtain ⟨_, -, hkept, hflushes⟩ | ⟨hover, ⟨hthere, -, hkept⟩ | ⟨hgone, hresult, haborted⟩⟩ :=
    o.pass_cases
  · have hnot : ¬ o.HandedOver o.pass.output := by
      intro hover
      have hcount := hover.flushes_eq
      omega
    simp [hkept, h, hnot]
  · simp [hkept, h, hthere]
  · exact ⟨⟨fun _ => ⟨hover, hgone⟩, fun _ => haborted⟩, fun _ => hresult⟩

/-- A write of such an output is a pass over what waits and what is written. -/
theorem aborted_write_iff {o : Output (Recorder σ)} (h : o.aborted = false) (data : List UInt8) :
    ((o.write data).output.aborted = true ↔
      ({ o with buffer := o.buffer ++ data } : Output (Recorder σ)).HandedOver
          (o.write data).output ∧
        Sink.isGone (o.write data).output.sink = true) ∧
    ((o.write data).output.aborted = true → (o.write data).result = .error .clientGone) := by
  have hpass : o.write data = Output.pass { o with buffer := o.buffer ++ data } :=
    if_neg (by simp [h])
  rw [hpass]
  exact aborted_pass_iff h

/-! ## An output that saw its client gone -/

/-- Every write is refused and changes nothing. -/
theorem write_of_aborted {o : Output σ} (h : o.aborted = true) (data : List UInt8) :
    o.write data = { result := .error .clientGone, output := o } :=
  if_pos h

/-- The end of the response gives the earlier error back, and touches no sink. -/
theorem settle_of_aborted {o : Output σ} (h : o.aborted = true) (earlier : Option ErrorReport) :
    (o.settle earlier).report = earlier ∧
      (o.settle earlier).output = { o with finished := true } := by
  obtain ⟨-, hreport, houtput⟩ | ⟨hflushes, -⟩ := o.settle_cases earlier
  · exact ⟨hreport, houtput⟩
  · simp [flushesAtEnd, h] at hflushes

/-- The end of the response does not look for the client. -/
theorem aborted_settle (o : Output (Recorder σ)) (earlier : Option ErrorReport) :
    (o.settle earlier).output.aborted = o.aborted := by
  obtain ⟨-, -, houtput⟩ | ⟨-, -, houtput⟩ := o.settle_cases earlier
  · rw [houtput]
  · rw [houtput]
    exact o.aborted_flushBuffer

end Output

namespace Session

/-! ## One operation -/

/-- A write makes a pass over the bytes that it appends, unless it is one to a stream that has
nothing to append: that goes well and does nothing. -/
theorem step_of_writes (s : Session σ) {op : Operation σ} (hop : op.writes = true) :
    ((s.step op).answer = .passed (s.output.write (s.offered op)).result ∧
        (s.after op).output = (s.output.write (s.offered op)).output) ∨
      op.handsOver = false ∧ s.offered op = [] ∧
        (s.step op).answer = .passed (.ok ()) ∧ (s.after op).output = s.output := by
  cases op with
  | write | puts | putMany | flush => exact .inl ⟨rfl, rfl⟩
  | streamWrite data =>
    by_cases hwhole : (s.stream.held ++ data).length / 3 * 3 = 0
    · have hwrite : s.stream.write s.output data =
          (⟨s.stream.held ++ data⟩, { result := .ok (), output := s.output }) := if_pos hwhole
      refine .inr ⟨rfl, ?_, ?_, ?_⟩
      · simp only [offered, hwhole, List.take_zero, Base64.encode]
      · simp only [step, hwrite, passed]
      · simp only [after, step, hwrite, passed, withOutput]
    · have hwrite : (s.stream.write s.output data).2 =
          s.output.write (s.offered (.streamWrite data)) := by
        unfold Base64Stream.write
        dsimp only
        rw [if_neg hwhole]
        rfl
      rw [← hwrite]
      exact .inl ⟨rfl, rfl⟩
  | streamFinish =>
    by_cases hheld : s.stream.held = []
    · have hfinish : s.stream.finish s.output = { result := .ok (), output := s.output } :=
        if_pos hheld
      refine .inr ⟨rfl, ?_, ?_, ?_⟩
      · simp only [offered, hheld, Base64.encode]
      · simp only [step, hfinish, passed]
      · simp only [after, step, hfinish, passed, withOutput]
    · have hfinish : s.stream.finish s.output = s.output.write (s.offered .streamFinish) :=
        if_neg hheld
      rw [← hfinish]
      exact .inl ⟨rfl, rfl⟩
  | openStream | settle | sinkChange => cases hop

/-- What does not write does not look for the client. -/
theorem aborted_after_of_not_writes (s : Session σ) {op : Operation σ} (hop : op.writes = false) :
    (s.after op).output.aborted = s.output.aborted := by
  cases op with
  | write | puts | putMany | flush | streamWrite | streamFinish => cases hop
  | openStream | sinkChange => rfl
  | settle earlier => exact s.output.aborted_settle earlier

/-- The operation wrote, all that waited and all that it appended was taken by the sink and then
flushed, and after that the sink showed its client gone. -/
structure SeesGone (s : Session σ) (op : Operation σ) : Prop where
  writes : op.writes = true
  received_eq : (s.after op).output.sink.received =
    s.output.sink.received ++ (s.output.buffer ++ s.offered op)
  flushes_eq : (s.after op).output.sink.flushes = s.output.sink.flushes + 1
  isGone : Sink.isGone (s.after op).output.sink.inner = true

/-- An operation takes the client for gone just if it sees that, and then it says so. -/
theorem aborted_after_iff {s : Session σ} (h : s.output.aborted = false) (op : Operation σ) :
    ((s.after op).output.aborted = true ↔ s.SeesGone op) ∧
      ((s.after op).output.aborted = true →
        (s.step op).answer = .passed (.error .clientGone)) := by
  cases hop : op.writes with
  | false =>
    have hkept := (s.aborted_after_of_not_writes hop).trans h
    have hnot : ¬ s.SeesGone op := fun hsees => Bool.noConfusion (hop.symm.trans hsees.writes)
    simp [hkept, hnot]
  | true =>
    obtain ⟨hanswer, hafter⟩ | ⟨-, -, -, hafter⟩ := s.step_of_writes hop
    · obtain ⟨hiff, hresult⟩ := Output.aborted_write_iff h (s.offered op)
      rw [← hafter] at hiff hresult
      refine ⟨hiff.trans ⟨fun hover => ?_, fun hsees => ?_⟩, fun hgone => ?_⟩
      · exact ⟨hop, hover.1.received_eq, hover.1.flushes_eq, hover.2⟩
      · exact ⟨⟨hsees.received_eq, hsees.flushes_eq⟩, hsees.isGone⟩
      · rw [hanswer, hresult hgone]
    · -- a stream that appends nothing makes no pass, so it does not flush
      have hnot : ¬ s.SeesGone op := by
        intro hsees
        have hcount := hsees.flushes_eq
        rw [hafter] at hcount
        omega
      simp [hafter, h, hnot]

/-! ## Once the client was seen to have gone -/

/-- An operation leaves the output as it is, but for what the sink does by itself and for the note
that the response was settled. -/
theorem after_of_aborted {s : Session σ} (h : s.output.aborted = true) (op : Operation σ) :
    ∃ finished, (s.after op).output =
      { s.output with
        sink := { s.output.sink with inner := op.ownChange s.output.sink.inner }
        finished := finished } := by
  cases hop : op.writes with
  | true =>
    have hown : op.ownChange s.output.sink.inner = s.output.sink.inner := by
      cases op with
      | write | puts | putMany | flush | streamWrite | streamFinish => rfl
      | openStream | settle | sinkChange => cases hop
    have hafter : (s.after op).output = s.output := by
      obtain ⟨-, hafter⟩ | ⟨-, -, -, hafter⟩ := s.step_of_writes hop
      · rw [hafter, Output.write_of_aborted h]
      · exact hafter
    rw [hown, hafter]
    exact ⟨s.output.finished, rfl⟩
  | false =>
    cases op with
    | write | puts | putMany | flush | streamWrite | streamFinish => cases hop
    | openStream => exact ⟨s.output.finished, rfl⟩
    | sinkChange change => exact ⟨s.output.finished, rfl⟩
    | settle earlier => exact ⟨true, (Output.settle_of_aborted h earlier).2⟩

/-- A client that was seen to have gone stays gone. -/
theorem aborted_after_of_aborted {s : Session σ} (h : s.output.aborted = true)
    (op : Operation σ) : (s.after op).output.aborted = true := by
  obtain ⟨_, hafter⟩ := after_of_aborted h op
  rw [hafter]
  exact h

/-- A run leaves the output as it is, but for what the sink does by itself and for the note that
the response was settled. -/
theorem run_of_aborted {s : Session σ} (h : s.output.aborted = true) (ops : List (Operation σ)) :
    ∃ finished, (s.run ops).output =
      { s.output with
        sink := { s.output.sink with inner := Operation.ownChanges ops s.output.sink.inner }
        finished := finished } := by
  -- the flag is among what one operation leaves, so the next one starts from it again
  induction ops generalizing s with
  | nil => exact ⟨s.output.finished, rfl⟩
  | cons op ops ih =>
    obtain ⟨finished, hafter⟩ := after_of_aborted h op
    obtain ⟨later, hrun⟩ := ih (aborted_after_of_aborted h op)
    refine ⟨later, ?_⟩
    rw [run_cons, hrun, hafter]
    rfl

/-- Everything that would write is refused, and the end of the response reports the earlier
error. -/
theorem answer_of_aborted {s : Session σ} (h : s.output.aborted = true) :
    (∀ op : Operation σ, op.handsOver = true ∨ s.offered op ≠ [] →
      (s.step op).answer = .passed (.error .clientGone)) ∧
    ∀ earlier, (s.step (.settle earlier)).answer = .settled earlier := by
  refine ⟨fun op hop => ?_, fun earlier => ?_⟩
  · have hwrites : op.writes = true := by
      cases op with
      | write | puts | putMany | flush | streamWrite | streamFinish => rfl
      | openStream | settle | sinkChange => simp [Operation.handsOver, offered] at hop
    obtain ⟨hanswer, -⟩ | ⟨hover, hnone, -⟩ := s.step_of_writes hwrites
    · rw [hanswer, Output.write_of_aborted h]
    · simp [hover, hnone] at hop
  · exact congrArg Answer.settled (Output.settle_of_aborted h earlier).1

/-! ## Runs -/

/-- The client was seen to have gone just if some operation of the run saw it. -/
theorem aborted_run_iff {s : Session σ} (h : s.output.aborted = false)
    (ops : List (Operation σ)) :
    (s.run ops).output.aborted = true ↔
      ∃ before op rest, ops = before ++ op :: rest ∧ (s.run before).output.aborted = false ∧
        (s.run before).SeesGone op := by
  induction ops generalizing s with
  | nil => simp [h]
  | cons op ops ih =>
    cases hafter : (s.after op).output.aborted with
    | true =>
      obtain ⟨_, hrun⟩ := run_of_aborted hafter ops
      refine ⟨fun _ => ⟨[], op, ops, rfl, h, (aborted_after_iff h op).1.1 hafter⟩, fun _ => ?_⟩
      rw [run_cons, hrun]
      exact hafter
    | false =>
      have hhere : ¬ s.SeesGone op := by
        rw [← (aborted_after_iff h op).1, hafter]
        exact Bool.false_ne_true
      rw [run_cons, ih hafter]
      constructor
      · rintro ⟨before, later, rest, rfl, hbefore, hsees⟩
        exact ⟨op :: before, later, rest, rfl, hbefore, hsees⟩
      · rintro ⟨before, later, rest, hops, hbefore, hsees⟩
        cases before with
        | nil =>
          obtain ⟨rfl, rfl⟩ := List.cons.inj hops
          exact absurd hsees hhere
        | cons first before =>
          obtain ⟨rfl, rfl⟩ := List.cons.inj hops
          exact ⟨before, later, rest, rfl, hbefore, hsees⟩

/-- **A client that has gone stays gone.**  In every run over every sink, an operation takes the
client for gone just if it handed everything over, flushed the sink and then found the client gone,
and it says so.  From then on the sink is left to itself, the counts stand still, whatever would
write is refused, and the end of the response reports the error that it was given. -/
theorem abort_latches (sink : σ) (ops : List (Operation σ)) :
    let s := (start sink).run ops
    (s.output.aborted = true ↔
      ∃ before op rest, ops = before ++ op :: rest ∧
        ((start sink).run before).output.aborted = false ∧
        ((start sink).run before).SeesGone op) ∧
    (s.output.aborted = false → ∀ op : Operation σ,
      ((s.after op).output.aborted = true ↔ s.SeesGone op) ∧
      ((s.after op).output.aborted = true →
        (s.step op).answer = .passed (.error .clientGone))) ∧
    (s.output.aborted = true → ∀ more : List (Operation σ),
      let t := s.run more
      t.output.sink =
        { s.output.sink with inner := Operation.ownChanges more s.output.sink.inner } ∧
      t.output.sent = s.output.sent ∧ t.output.buffer = s.output.buffer ∧
      t.output.aborted = true ∧
      (∀ op : Operation σ, op.handsOver = true ∨ t.offered op ≠ [] →
        (t.step op).answer = .passed (.error .clientGone)) ∧
      ∀ earlier, (t.step (.settle earlier)).answer = .settled earlier) := by
  intro s
  refine ⟨aborted_run_iff rfl ops, fun h op => aborted_after_iff h op, fun h more => ?_⟩
  intro t
  obtain ⟨finished, hrun⟩ := run_of_aborted h more
  have hgone : t.output.aborted = true := by
    rw [show t.output = _ from hrun]
    exact h
  obtain ⟨hrefused, hsettled⟩ := answer_of_aborted hgone
  refine ⟨?_, ?_, ?_, hgone, hrefused, hsettled⟩
  · rw [show t.output = _ from hrun]
  · rw [show t.output = _ from hrun]
  · rw [show t.output = _ from hrun]

/-- A client that goes after three bytes of a sink that takes two at a time, and then seems to be
there again. -/
theorem abort_latches_after_three_bytes :
    let sink : ScriptedSink := { maxChunk := some 2, goneAfter := some 3 }
    let s := (start sink).run [.puts "ab"]
    let t := (start sink).run [.puts "ab", .write [1, 2]]
    let u := t.run [.sinkChange fun k => { k with goneAfter := none }, .openStream, .write [3],
      .streamWrite [4, 5]]
    s.output.aborted = false ∧ s.SeesGone (.write [1, 2]) ∧
      (s.step (.write [1, 2])).answer = .passed (.error .clientGone) ∧ t.output.aborted = true ∧
      u.output.sink.received = [97, 98, 1, 2] ∧ u.output.sink.flushes = 2 ∧
      (u.step (.puts "")).answer = .passed (.error .clientGone) := by
  intro sink s t u
  have hopen : s.output.aborted = false := by cbv
  have hsees : s.SeesGone (.write [1, 2]) := ⟨rfl, by cbv, by cbv, by cbv⟩
  obtain ⟨hiff, hanswer⟩ := (abort_latches sink [.puts "ab"]).2.1 hopen (.write [1, 2])
  have hgone : t.output.aborted = true := hiff.2 hsees
  obtain ⟨hsink, -, -, -, hrefused, -⟩ := (abort_latches sink [.puts "ab", .write [1, 2]]).2.2 hgone
    [.sinkChange fun k => { k with goneAfter := none }, .openStream, .write [3],
      .streamWrite [4, 5]]
  have hreceived : t.output.sink.received = [97, 98, 1, 2] := by cbv
  have hflushes : t.output.sink.flushes = 2 := by cbv
  refine ⟨hopen, hsees, hanswer hgone, hgone, ?_, ?_, hrefused (.puts "") (.inl rfl)⟩
  · exact (congrArg Recorder.received hsink).trans hreceived
  · exact (congrArg Recorder.flushes hsink).trans hflushes

end Session

end DavGateway
