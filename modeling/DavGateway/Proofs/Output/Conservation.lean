/-
# Nothing is lost on the way out

Whatever a sink takes, refuses or fails at, what it has received and what still
waits in the buffer make up, in order, what was appended to the output.  Each
step of the hand-over moves bytes from the one to the other and never drops,
repeats or swaps any.

* `Output.Accounts` : the balance of an output with what was appended to it.
* `Session.accounts_after` : every operation keeps the balance.
* `Session.run_conserves` : so does every run, over every sink.
-/
import DavGateway.Output.ScriptedSink
import DavGateway.Proofs.Output.Run

namespace DavGateway

variable {σ : Type}

namespace Output

/-- The balance of an output: what its sink received and what waits in the buffer are what was
appended, the count of sent bytes is right, and nothing waits once the client was seen to have
gone. -/
structure Accounts (o : Output (Recorder σ)) (appended : List UInt8) : Prop where
  received_append_buffer : o.sink.received ++ o.buffer = appended
  sent_eq : o.sent = o.sink.received.length
  buffer_eq_nil : o.aborted = true → o.buffer = []

/-- The note that a response was settled is no part of the balance. -/
theorem Accounts.finished {o : Output (Recorder σ)} {appended : List UInt8}
    (h : o.Accounts appended) :
    ({ o with finished := true } : Output (Recorder σ)).Accounts appended :=
  ⟨h.received_append_buffer, h.sent_eq, h.buffer_eq_nil⟩

/-- Nothing that happens to a sink beside its bytes changes the balance. -/
theorem Accounts.withSink {o : Output (Recorder σ)} {appended : List UInt8}
    (h : o.Accounts appended) {sink : Recorder σ} (hsink : sink.received = o.sink.received) :
    ({ o with sink := sink } : Output (Recorder σ)).Accounts appended :=
  ⟨hsink ▸ h.received_append_buffer, hsink ▸ h.sent_eq, h.buffer_eq_nil⟩

end Output

/-- A new output has a balance of nothing. -/
theorem Session.accounts_start (sink : σ) : (start sink).output.Accounts [] :=
  ⟨rfl, rfl, fun _ => rfl⟩

variable [Sink σ]

/-! ## Handing over -/

/-- If all bytes were to be taken and no failure came up, nothing is left over. -/
theorem rest_writeAll_of_ok {sink : σ} {data : List UInt8}
    (h : (writeAll sink data).result = .ok ()) : (writeAll sink data).rest = [] := by
  fun_induction writeAll sink data with
  | case1 => rfl
  | case2 => cases h
  | case3 => cases h
  | case4 _ _ _ _ _ _ ih => exact ih h

/-- A flush hands over no bytes. -/
theorem received_flush (r : Recorder σ) : (Sink.flush r).2.received = r.received := by
  show (r.flush).2.received = r.received
  unfold Recorder.flush
  split
  · rfl
  · rfl

namespace Output

/-- The output after its buffer was offered to the sink. -/
def delivered (o : Output σ) : Output σ :=
  let delivery := writeAll o.sink o.buffer
  { o with
    sink := delivery.sink
    buffer := delivery.rest
    sent := o.sent + (o.buffer.length - delivery.rest.length) }

/-- The sink is flushed only after it took the whole buffer. -/
theorem flushBuffer_eq (o : Output σ) :
    o.flushBuffer =
      match (writeAll o.sink o.buffer).result with
      | .error failure => (.error failure, o.delivered)
      | .ok () =>
        ((Sink.flush o.delivered.sink).1,
          { o.delivered with sink := (Sink.flush o.delivered.sink).2 }) :=
  rfl

/-- A hand-over does not look for the client. -/
theorem aborted_flushBuffer (o : Output σ) : o.flushBuffer.2.aborted = o.aborted := by
  rw [flushBuffer_eq]
  split <;> rfl

/-- A hand-over does not settle the response. -/
theorem finished_flushBuffer (o : Output σ) : o.flushBuffer.2.finished = o.finished := by
  rw [flushBuffer_eq]
  split <;> rfl

/-- Whether the end of the response would flush: that it was not settled, has its client, and has
started. -/
def flushesAtEnd (o : Output σ) : Bool := !o.finished && !o.aborted && o.started

/-- The note that a response was settled plays no part in a hand-over. -/
theorem flushBuffer_finished (o : Output σ) :
    ({ o with finished := true } : Output σ).flushBuffer =
      (o.flushBuffer.1, { o.flushBuffer.2 with finished := true }) := by
  rw [flushBuffer_eq, flushBuffer_eq]
  dsimp only
  split <;> rfl

/-- The end of a response either gives the earlier error and leaves the sink alone, or it hands
over, and a failure to do so is reported behind an earlier error. -/
theorem settle_cases (o : Output σ) (earlier : Option ErrorReport) :
    o.flushesAtEnd = false ∧ (o.settle earlier).report = earlier ∧
        (o.settle earlier).output = { o with finished := true } ∨
      o.flushesAtEnd = true ∧
        (o.settle earlier).report = earlier.or
          (match o.flushBuffer.1 with
          | .ok () => none
          | .error _ => some flushReport) ∧
        (o.settle earlier).output = { o.flushBuffer.2 with finished := true } := by
  unfold Output.settle
  split
  · next hfinished =>
    have hnoted : o = { o with finished := true } := by rw [← hfinished]
    exact .inl ⟨by simp [flushesAtEnd, hfinished], rfl, hnoted⟩
  next hopen =>
  dsimp only
  split
  · next hgone => exact .inl ⟨by simp [flushesAtEnd, hgone], rfl, rfl⟩
  next hthere =>
  have hstarted : ({ o with finished := true } : Output σ).started = o.started := rfl
  rw [hstarted, o.flushBuffer_finished]
  split
  · next hidle => exact .inl ⟨by simpa [flushesAtEnd, hopen, hthere] using hidle, rfl, rfl⟩
  next hbegun =>
  refine .inr ⟨by simpa [flushesAtEnd, hopen, hthere] using hbegun, ?_⟩
  cases o.flushBuffer.1 with
  | ok _ => exact ⟨(Option.or_none).symm, rfl⟩
  | error failure =>
    cases earlier with
    | some report => exact ⟨rfl, rfl⟩
    | none => exact ⟨rfl, rfl⟩

/-- Offering the buffer keeps the balance. -/
theorem Accounts.delivered {o : Output (Recorder σ)} {appended : List UInt8}
    (h : o.Accounts appended) : o.delivered.Accounts appended := by
  -- what the sink received has grown by what the buffer has lost
  have hmoved := received_writeAll o.sink o.buffer
  have hshort := (rest_writeAll_suffix o.sink o.buffer).length_le
  have hlength := congrArg List.length hmoved
  rw [List.length_append, List.length_append] at hlength
  refine ⟨hmoved.trans h.received_append_buffer, ?_, ?_⟩
  · show o.sent + (o.buffer.length - (writeAll o.sink o.buffer).rest.length) =
      (writeAll o.sink o.buffer).sink.received.length
    rw [h.sent_eq]
    omega
  · intro hgone
    have hnil : o.delivered.buffer <:+ o.buffer := rest_writeAll_suffix o.sink o.buffer
    rw [h.buffer_eq_nil hgone] at hnil
    exact List.suffix_nil.1 hnil

/-- Handing over keeps the balance, and leaves nothing behind if it goes well. -/
theorem Accounts.flushBuffer {o : Output (Recorder σ)} {appended : List UInt8}
    (h : o.Accounts appended) :
    o.flushBuffer.2.Accounts appended ∧
      (o.flushBuffer.1 = .ok () → o.flushBuffer.2.buffer = []) := by
  rw [flushBuffer_eq]
  cases hresult : (writeAll o.sink o.buffer).result with
  | error failure => exact ⟨h.delivered, fun hok => nomatch hok⟩
  | ok _ => exact ⟨h.delivered.withSink (received_flush _), fun _ => rest_writeAll_of_ok hresult⟩

/-- A pass keeps the balance, and leaves nothing behind if it goes well. -/
theorem Accounts.pass {o : Output (Recorder σ)} {appended : List UInt8}
    (h : o.Accounts appended) :
    o.pass.output.Accounts appended ∧ (o.pass.result = .ok () → o.pass.output.buffer = []) := by
  obtain ⟨hkept, hempty⟩ := h.flushBuffer
  unfold Output.pass
  split
  · next failure o' hflush =>
    rw [hflush] at hkept
    exact ⟨hkept, fun hok => nomatch hok⟩
  · next o' hflush =>
    rw [hflush] at hkept hempty
    -- the client is looked for only after the buffer was emptied
    split
    · exact ⟨⟨hkept.received_append_buffer, hkept.sent_eq, fun _ => hempty rfl⟩,
        fun hok => nomatch hok⟩
    · exact ⟨hkept, fun _ => hempty rfl⟩

/-- A write adds its bytes to the balance unless the client was seen to have gone, and leaves
nothing behind if it goes well. -/
theorem Accounts.write {o : Output (Recorder σ)} {appended : List UInt8}
    (h : o.Accounts appended) (data : List UInt8) :
    (o.write data).output.Accounts (appended ++ if o.aborted then [] else data) ∧
      ((o.write data).result = .ok () → (o.write data).output.buffer = []) := by
  unfold Output.write
  split
  · rw [List.append_nil]
    exact ⟨h, fun hok => nomatch hok⟩
  · next hopen =>
    apply Accounts.pass
    refine ⟨?_, h.sent_eq, fun hgone => absurd hgone hopen⟩
    rw [← h.received_append_buffer, List.append_assoc]

/-- The end of a response keeps the balance. -/
theorem Accounts.settle {o : Output (Recorder σ)} {appended : List UInt8}
    (h : o.Accounts appended) (earlier : Option ErrorReport) :
    (o.settle earlier).output.Accounts appended := by
  obtain ⟨-, -, houtput⟩ | ⟨-, -, houtput⟩ := o.settle_cases earlier
  · rw [houtput]
    exact h.finished
  · rw [houtput]
    exact h.flushBuffer.1.finished

/-- A write to a stream adds the groups that it fills to the balance. -/
theorem Accounts.streamWrite {o : Output (Recorder σ)} {appended : List UInt8}
    (h : o.Accounts appended) (stream : Base64Stream) (data : List UInt8) :
    (stream.write o data).2.output.Accounts (appended ++ if o.aborted then [] else
      Base64.encode ((stream.held ++ data).take ((stream.held ++ data).length / 3 * 3))) := by
  unfold Base64Stream.write
  dsimp only
  split
  · next hwhole =>
    have hnil : Base64.encode ((stream.held ++ data).take 0) = [] := rfl
    rw [hwhole, hnil, ite_self, List.append_nil]
    exact h
  · exact (h.write _).1

/-- The end of a stream adds what it holds to the balance. -/
theorem Accounts.streamFinish {o : Output (Recorder σ)} {appended : List UInt8}
    (h : o.Accounts appended) (stream : Base64Stream) :
    (stream.finish o).output.Accounts
      (appended ++ if o.aborted then [] else Base64.encode stream.held) := by
  unfold Base64Stream.finish
  split
  · next hheld =>
    have hnil : Base64.encode [] = [] := rfl
    rw [hheld, hnil, ite_self, List.append_nil]
    exact h
  · exact (h.write _).1

end Output

/-! ## Runs -/

/-- Whether an operation hands over all that waits: a write of the output, not of a stream on it,
which may hold bytes back. -/
def Operation.handsOver : Operation σ → Bool
  | .write _ | .puts _ | .putMany _ | .flush => true
  | .openStream | .streamWrite _ | .streamFinish | .settle _ | .sinkChange _ => false

namespace Session

/-- Every operation adds what it appends to the balance. -/
theorem accounts_after {s : Session σ} {appended : List UInt8} (h : s.output.Accounts appended)
    (op : Operation σ) : (s.after op).output.Accounts (appended ++ s.appends op) := by
  have hnone : ∀ {op : Operation σ}, s.offered op = [] → appended ++ s.appends op = appended := by
    intro op hop
    simp [appends, hop]
  cases op with
  | write data => exact (h.write data).1
  | puts text => exact (h.write _).1
  | putMany parts => exact (h.write _).1
  -- a flush is a write of nothing
  | flush => exact (h.write []).1
  | openStream =>
    rw [hnone rfl]
    exact h
  | streamWrite data => exact h.streamWrite s.stream data
  | streamFinish => exact h.streamFinish s.stream
  | settle earlier =>
    rw [hnone rfl]
    exact h.settle earlier
  | sinkChange change =>
    rw [hnone rfl]
    exact h.withSink rfl

/-- A run adds what its operations append to the balance. -/
theorem accounts_run {s : Session σ} {appended : List UInt8} (h : s.output.Accounts appended)
    (ops : List (Operation σ)) : (s.run ops).output.Accounts (appended ++ s.appended ops) := by
  -- a later operation finds the balance of all earlier ones, so it is generalized with the session
  induction ops generalizing s appended with
  | nil =>
    rw [Session.appended, List.append_nil]
    exact h
  | cons op ops ih =>
    rw [Session.appended, ← List.append_assoc]
    exact ih (accounts_after h op)

/-- A write of the output that goes well leaves nothing in the buffer. -/
theorem buffer_after_eq_nil {s : Session σ} {appended : List UInt8}
    (h : s.output.Accounts appended) {op : Operation σ} (hop : op.handsOver = true)
    (hok : (s.step op).answer = .passed (.ok ())) : (s.after op).output.buffer = [] := by
  have hwrite : ∀ data, (s.passed (s.output.write data)).answer = .passed (.ok ()) →
      (s.output.write data).output.buffer = [] := by
    intro data hanswer
    exact (h.write data).2 (Answer.passed.inj hanswer)
  cases op with
  | write data => exact hwrite data hok
  | puts text => exact hwrite _ hok
  | putMany parts => exact hwrite _ hok
  | flush => exact hwrite [] hok
  | openStream | streamWrite | streamFinish | settle | sinkChange => cases hop

/-- **Nothing is lost on the way out.**  After any run over any sink, the bytes that the sink
received and those that wait are what was appended, in order; the counts are theirs; nothing
waits once the client was seen to have gone, nor after a write of the output that went well. -/
theorem run_conserves (sink : σ) (ops : List (Operation σ)) :
    let s := (start sink).run ops
    s.output.sink.received ++ s.output.buffer = (start sink).appended ops ∧
      s.output.sent = s.output.sink.received.length ∧
      s.output.sent + s.output.buffer.length = ((start sink).appended ops).length ∧
      (s.output.aborted = true → s.output.buffer = []) ∧
      ∀ op : Operation σ, op.handsOver = true → (s.step op).answer = .passed (.ok ()) →
        (s.after op).output.buffer = [] ∧
          (s.after op).output.sink.received = (start sink).appended (ops ++ [op]) := by
  have h := accounts_run (accounts_start sink) ops
  rw [List.nil_append] at h
  refine ⟨h.received_append_buffer, h.sent_eq, ?_, h.buffer_eq_nil, ?_⟩
  · rw [h.sent_eq, ← h.received_append_buffer, List.length_append]
  · intro op hop hok
    have hnil := buffer_after_eq_nil h hop hok
    have hkept := (accounts_after h op).received_append_buffer
    rw [hnil, List.append_nil] at hkept
    refine ⟨hnil, ?_⟩
    rw [hkept, appended_append, appended, appended, List.append_nil]

/-- A sink that is full after three bytes, and takes the rest once it has room again. -/
theorem run_conserves_full_sink :
    let s := (start ({ maxChunk := some 2, capacity := some 3 } : ScriptedSink)).run
      [.write [1, 2, 3, 4, 5], .sinkChange fun k => { k with capacity := none }]
    s.output.sink.received = [1, 2, 3] ∧ s.output.buffer = [4, 5] ∧
      (s.step (.putMany ["a", "b"])).answer = .passed (.ok ()) ∧
      (s.after (.putMany ["a", "b"])).output.sink.received = [1, 2, 3, 4, 5, 97, 98] := by
  intro s
  have hok : (s.step (.putMany ["a", "b"])).answer = .passed (.ok ()) := by
    cbv
  refine ⟨by cbv, by cbv, hok, ?_⟩
  exact ((run_conserves _ _).2.2.2.2 _ rfl hok).2.trans (by cbv)

end Session

end DavGateway
