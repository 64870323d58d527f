/-
# Responses are settled once

The end of a response hands over what is left, but only the first time, only
while the client is there, and only if the response has started.  An error that
is there already is always the one to report.  If the first end reports
nothing, everything that was appended has reached the sink.

* `Output.flushesAtEnd_iff` : the outputs whose end hands over.
* `Session.finished_run_iff` : a response was settled just if a run did it.
* `Session.finalFlushes_le_one` : no run hands over at the end twice.
* `Session.run_settles` : what the end of a response comes to, over every run and sink.
-/
import DavGateway.Proofs.Output.Abort

namespace DavGateway

variable {σ : Type}

/-- Whether an operation ends the response. -/
def Operation.settles : Operation σ → Bool
  | .settle _ => true
  | .write _ | .puts _ | .putMany _ | .flush | .openStream | .streamWrite _ | .streamFinish
  | .sinkChange _ => false

/-- An operation that ends the response is that and nothing else. -/
theorem Operation.settles_eq_true_iff {op : Operation σ} :
    op.settles = true ↔ ∃ earlier, op = .settle earlier := by
  cases op <;> simp [settles]

variable [Sink σ]

namespace Output

/-! ## Outputs that flush at the end -/

/-- A response has started if the transport or the output sent something of it, or if something
waits. -/
theorem started_iff (o : Output σ) :
    o.started = true ↔ 0 < Sink.sentBefore o.sink ∨ 0 < o.sent ∨ 0 < o.buffer.length := by
  simp [started, List.length_pos_iff, or_assoc]

/-- The end of a response hands over if there was none before, no client was seen to have gone,
and the response has started. -/
theorem flushesAtEnd_iff (o : Output σ) :
    o.flushesAtEnd = true ↔ o.finished = false ∧ o.aborted = false ∧
      (0 < Sink.sentBefore o.sink ∨ 0 < o.sent ∨ 0 < o.buffer.length) := by
  rw [flushesAtEnd, Bool.and_eq_true, Bool.and_eq_true, started_iff, Bool.not_eq_true',
    Bool.not_eq_true', and_assoc]

/-- Writing what waits fails, or the flush behind it does. -/
def FlushFails (o : Output σ) : Prop :=
  let delivery := writeAll o.sink o.buffer
  (∃ failure, delivery.result = .error failure) ∨
    delivery.result = .ok () ∧ ∃ failure, (Sink.flush delivery.sink).1 = .error failure

/-- These are the failures of a hand-over. -/
theorem flushFails_iff (o : Output σ) :
    o.FlushFails ↔ ∃ failure, o.flushBuffer.1 = .error failure := by
  rw [flushBuffer_eq]
  cases hresult : (writeAll o.sink o.buffer).result with
  | error failure => simp [FlushFails, hresult]
  | ok _ => simp [FlushFails, hresult, delivered]

/-! ## The first end of a response -/

/-- The error that the end reports if there is no earlier one. -/
theorem report_settle_none (o : Output σ) :
    (o.flushesAtEnd = true → o.FlushFails → (o.settle none).report = some flushReport) ∧
      (¬ (o.flushesAtEnd = true ∧ o.FlushFails) → (o.settle none).report = none) := by
  rw [flushFails_iff]
  obtain ⟨hflushes, hreport, -⟩ | ⟨hflushes, hreport, -⟩ := o.settle_cases none
  · simp [hflushes, hreport]
  · rw [hreport, Option.none_or]
    cases o.flushBuffer.1 with
    | error failure => simp [hflushes]
    | ok _ => simp

/-- An earlier error is reported whatever the sink does. -/
theorem report_settle_some (o : Output σ) (report : ErrorReport) :
    (o.settle (some report)).report = some report := by
  obtain ⟨-, hreport, -⟩ | ⟨-, hreport, -⟩ := o.settle_cases (some report)
  · exact hreport
  · rw [hreport, Option.some_or]

/-- Every end leaves its note. -/
theorem finished_settle (o : Output σ) (earlier : Option ErrorReport) :
    (o.settle earlier).output.finished = true := by
  obtain ⟨-, -, houtput⟩ | ⟨-, -, houtput⟩ := o.settle_cases earlier
  · rw [houtput]
  · rw [houtput]

/-- If the first end reports nothing, all that was appended has reached the sink. -/
theorem Accounts.settle_none {o : Output (Recorder σ)} {appended : List UInt8}
    (h : o.Accounts appended) (hopen : o.finished = false)
    (hnone : (o.settle none).report = none) :
    (o.settle none).output.sink.received = appended ∧ (o.settle none).output.buffer = [] := by
  have hafter := h.settle none
  -- a client that was seen to have gone left nothing waiting, and neither does a whole hand-over
  have hbuffer : (o.settle none).output.buffer = [] := by
    obtain ⟨hidle, -, houtput⟩ | ⟨-, hreport, houtput⟩ := o.settle_cases none
    · rw [houtput]
      cases hgone : o.aborted with
      | true => exact h.buffer_eq_nil hgone
      | false =>
        have hstarted : o.started = false := by
          simpa [flushesAtEnd, hopen, hgone] using hidle
        rw [started, Bool.or_eq_false_iff] at hstarted
        simpa using hstarted.2
    · rw [houtput]
      apply h.flushBuffer.2
      cases hflush : o.flushBuffer.1 with
      | ok _ => rfl
      | error failure =>
        rw [hreport, hflush] at hnone
        cases hnone
  have hreceived := hafter.received_append_buffer
  rw [hbuffer, List.append_nil] at hreceived
  exact ⟨hreceived, hbuffer⟩

/-! ## The note that a response was settled -/

/-- A write leaves the note of the end as it is. -/
theorem finished_write (o : Output (Recorder σ)) (data : List UInt8) :
    (o.write data).output.finished = o.finished := by
  have hkept := ({ o with buffer := o.buffer ++ data } : Output (Recorder σ)).finished_flushBuffer
  unfold Output.write
  split
  · rfl
  unfold Output.pass
  split
  · next hflush =>
    rw [hflush] at hkept
    exact hkept
  · next hflush =>
    rw [hflush] at hkept
    split
    · exact hkept
    · exact hkept

end Output

namespace Session

/-- Only an end leaves its note. -/
theorem finished_after (s : Session σ) (op : Operation σ) :
    (s.after op).output.finished = (s.output.finished || op.settles) := by
  cases hop : op.writes with
  | true =>
    have hnot : op.settles = false := by
      cases op with
      | settle => cases hop
      | _ => rfl
    rw [hnot, Bool.or_false]
    obtain ⟨-, hafter⟩ | ⟨-, -, -, hafter⟩ := s.step_of_writes hop
    · rw [hafter, Output.finished_write]
    · rw [hafter]
  | false =>
    cases op with
    | write | puts | putMany | flush | streamWrite | streamFinish => cases hop
    | openStream | sinkChange => exact (Bool.or_false _).symm
    | settle earlier =>
      rw [Operation.settles, Bool.or_true]
      exact s.output.finished_settle earlier

/-- A response was settled just if an operation of the run did it. -/
theorem finished_run (s : Session σ) (ops : List (Operation σ)) :
    (s.run ops).output.finished = (s.output.finished || ops.any Operation.settles) := by
  induction ops generalizing s with
  | nil => exact (Bool.or_false _).symm
  | cons op ops ih => rw [run_cons, ih, finished_after, List.any_cons, Bool.or_assoc]

/-- So a new response is not settled as long as nothing ends it. -/
theorem finished_run_start_iff (sink : σ) (ops : List (Operation σ)) :
    ((start sink).run ops).output.finished = false ↔ ∀ earlier, .settle earlier ∉ ops := by
  have hstart : (start sink).output.finished = false := rfl
  rw [finished_run, hstart, Bool.false_or, List.any_eq_false]
  simp only [Operation.settles_eq_true_iff]
  constructor
  · intro hnone earlier hmem
    exact hnone _ hmem ⟨earlier, rfl⟩
  · rintro hnone _ hmem ⟨earlier, rfl⟩
    exact hnone earlier hmem

/-! ## Final flushes of a run -/

/-- How many operations of a run end the response with a hand-over. -/
def finalFlushes (s : Session σ) : List (Operation σ) → Nat
  | [] => 0
  | op :: ops =>
    (if op.settles && s.output.flushesAtEnd then 1 else 0) + (s.after op).finalFlushes ops

/-- A response that was settled is not flushed again. -/
theorem finalFlushes_of_finished {s : Session σ} (h : s.output.finished = true)
    (ops : List (Operation σ)) : s.finalFlushes ops = 0 := by
  induction ops generalizing s with
  | nil => rfl
  | cons op ops ih =>
    have hlater : (s.after op).output.finished = true := by rw [finished_after, h, Bool.true_or]
    have hnot : s.output.flushesAtEnd = false := by simp [Output.flushesAtEnd, h]
    simp [finalFlushes, hnot, ih hlater]

/-- No run flushes at the end twice. -/
theorem finalFlushes_le_one (s : Session σ) (ops : List (Operation σ)) :
    s.finalFlushes ops ≤ 1 := by
  induction ops generalizing s with
  | nil => exact Nat.zero_le 1
  | cons op ops ih =>
    rw [finalFlushes]
    cases hop : op.settles with
    | false => simpa using ih (s.after op)
    | true =>
      have hlater : (s.after op).output.finished = true := by rw [finished_after, hop, Bool.or_true]
      rw [finalFlushes_of_finished hlater]
      split
      · exact Nat.le_refl 1
      · exact Nat.zero_le 1

/-- **The end settles the response.**  In every state that a run over any sink can lead to, an
error given is the error reported.  If none is given none is reported, unless the end hands over
and that fails: then it is one untagged node.  The end hands over only if it is the first, the
client was not seen to have gone and the response has started; else it leaves the sink alone, so
no run hands over at the end twice.  If the first end reports nothing, the sink has received all
that was appended, and nothing waits. -/
theorem run_settles (sink : σ) (ops : List (Operation σ)) :
    let s := (start sink).run ops
    (∀ report, (s.step (.settle (some report))).answer = .settled (some report)) ∧
    (s.output.flushesAtEnd = true → s.output.FlushFails →
      ∃ report, (s.step (.settle none)).answer = .settled (some report) ∧
        report.toList = [⟨.internalError, 175002, "Error flushing response output.", false⟩]) ∧
    (¬ (s.output.flushesAtEnd = true ∧ s.output.FlushFails) →
      (s.step (.settle none)).answer = .settled none) ∧
    (s.output.flushesAtEnd = true ↔
      (∀ earlier, .settle earlier ∉ ops) ∧ s.output.aborted = false ∧
        (0 < Sink.sentBefore s.output.sink ∨ 0 < s.output.sent ∨ 0 < s.output.buffer.length)) ∧
    (s.output.flushesAtEnd = false → ∀ earlier,
      (s.after (.settle earlier)).output = { s.output with finished := true }) ∧
    (start sink).finalFlushes ops ≤ 1 ∧
    ((∀ earlier, .settle earlier ∉ ops) → (s.step (.settle none)).answer = .settled none →
      (s.after (.settle none)).output.sink.received = (start sink).appended ops ∧
        (s.after (.settle none)).output.buffer = []) := by
  intro s
  have hbalance := accounts_run (accounts_start sink) ops
  rw [List.nil_append] at hbalance
  obtain ⟨hfails, hnone⟩ := s.output.report_settle_none
  refine ⟨fun report => ?_, fun hflushes hfail => ⟨Output.flushReport, ?_, rfl⟩, fun hnot => ?_, ?_,
    fun hidle earlier => ?_, finalFlushes_le_one _ ops, fun hfirst hanswer => ?_⟩
  · exact congrArg Answer.settled (s.output.report_settle_some report)
  · exact congrArg Answer.settled (hfails hflushes hfail)
  · exact congrArg Answer.settled (hnone hnot)
  · rw [Output.flushesAtEnd_iff, finished_run_start_iff]
  · obtain ⟨-, -, houtput⟩ | ⟨hflushes, -, -⟩ := s.output.settle_cases earlier
    · exact houtput
    · exact absurd (hidle.symm.trans hflushes) Bool.noConfusion
  · exact hbalance.settle_none ((finished_run_start_iff sink ops).2 hfirst)
      (Answer.settled.inj hanswer)

/-- A sink that is full after three bytes: an end right then reports it, and an end once there is
room again delivers the rest. -/
theorem run_settles_full_sink :
    let sink : ScriptedSink := { maxChunk := some 2, capacity := some 3 }
    let ops : List (Operation ScriptedSink) := [.write [1, 2, 3, 4, 5]]
    let more := ops ++ [.sinkChange fun k => { k with capacity := none }]
    let s := (start sink).run ops
    let t := (start sink).run more
    s.output.flushesAtEnd = true ∧ s.output.FlushFails ∧
      (∃ report, (s.step (.settle none)).answer = .settled (some report) ∧
        report.toList = [⟨.internalError, 175002, "Error flushing response output.", false⟩]) ∧
      (t.step (.settle none)).answer = .settled none ∧
      (t.after (.settle none)).output.sink.received = [1, 2, 3, 4, 5] ∧
      (t.after (.settle none)).output.buffer = [] := by
  intro sink ops more s t
  have hflushes : s.output.flushesAtEnd = true := by cbv
  have hfails : s.output.FlushFails := (Output.flushFails_iff _).2 ⟨"sink is full", by cbv⟩
  have hanswer : (t.step (.settle none)).answer = .settled none := by cbv
  have hfirst : ∀ earlier, .settle earlier ∉ more := by simp [more, ops]
  obtain ⟨-, hreport, -⟩ := run_settles sink ops
  obtain ⟨hreceived, hbuffer⟩ := (run_settles sink more).2.2.2.2.2.2 hfirst hanswer
  exact ⟨hflushes, hfails, hreport hflushes hfails, hanswer, hreceived.trans (by cbv), hbuffer⟩

end Session

end DavGateway
