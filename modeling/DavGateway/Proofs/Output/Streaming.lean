/-
# Streams and one-shot encoding

A stream encodes in pieces what could have been encoded at once.  However its
input is cut up, and whatever the sink does meanwhile, what it adds to the
output is the encoding of the whole groups so far, and in the end that of the
whole input.  Only a client that has gone cuts it short, behind a whole group.

* `Base64.wholeGroups_append` : whole groups are found piece by piece.
* `Session.Encoding` : how a session with a stream stands to the input of the stream.
* `Session.stream_encodes` : so it stands after every input, over every run and sink.
-/
import DavGateway.Proofs.Output.Abort

namespace DavGateway

namespace Base64

/-! ## Whole groups -/

/-- The bytes of the groups that a sequence of bytes fills. -/
def wholeGroups (bytes : List UInt8) : List UInt8 := bytes.take (bytes.length / 3 * 3)

/-- The bytes behind the groups that a sequence of bytes fills. -/
def remainder (bytes : List UInt8) : List UInt8 := bytes.drop (bytes.length / 3 * 3)

theorem wholeGroups_append_remainder (bytes : List UInt8) :
    wholeGroups bytes ++ remainder bytes = bytes :=
  List.take_append_drop _ _

theorem dvd_length_wholeGroups (bytes : List UInt8) : 3 ∣ (wholeGroups bytes).length := by
  rw [wholeGroups, List.length_take]
  omega

theorem length_remainder_le (bytes : List UInt8) : (remainder bytes).length ≤ 2 := by
  rw [remainder, List.length_drop]
  omega

/-- Whole groups in front count as they are. -/
theorem length_append_groups {front : List UInt8} (h : 3 ∣ front.length) (back : List UInt8) :
    (front ++ back).length / 3 * 3 = front.length + back.length / 3 * 3 := by
  rw [List.length_append]
  omega

/-- Whole groups in front are whole groups of the sequence. -/
theorem wholeGroups_append {front : List UInt8} (h : 3 ∣ front.length) (back : List UInt8) :
    wholeGroups (front ++ back) = front ++ wholeGroups back := by
  rw [wholeGroups, length_append_groups h, List.take_length_add_append, wholeGroups]

/-- Whole groups in front do not change what is left over. -/
theorem remainder_append {front : List UInt8} (h : 3 ∣ front.length) (back : List UInt8) :
    remainder (front ++ back) = remainder back := by
  rw [remainder, length_append_groups h, List.drop_length_add_append, remainder]

/-- More bytes are grouped together with what is left over. -/
theorem wholeGroups_append_more (bytes more : List UInt8) :
    wholeGroups (bytes ++ more) = wholeGroups bytes ++ wholeGroups (remainder bytes ++ more) := by
  rw [← wholeGroups_append (dvd_length_wholeGroups bytes), ← List.append_assoc,
    wholeGroups_append_remainder]

/-- What is left over depends on what was left over before. -/
theorem remainder_append_more (bytes more : List UInt8) :
    remainder (bytes ++ more) = remainder (remainder bytes ++ more) := by
  rw [← remainder_append (dvd_length_wholeGroups bytes) (remainder bytes ++ more),
    ← List.append_assoc, wholeGroups_append_remainder]

/-- The encoding of whole groups begins that of everything they begin. -/
theorem encode_prefix {front bytes : List UInt8} (h : 3 ∣ front.length) (hfront : front <+: bytes) :
    encode front <+: encode bytes := by
  obtain ⟨back, rfl⟩ := hfront
  rw [encode_append front back h]
  exact List.prefix_append _ _

/-- An encoding is made of groups of four symbols. -/
theorem dvd_length_encode (bytes : List UInt8) : 4 ∣ (encode bytes).length := by
  fun_induction encode bytes with
  | case1 a b c rest ih =>
    have hgroup : (group a b c).length = 4 := rfl
    rw [List.length_append, hgroup]
    omega
  | case2 a b => exact ⟨1, rfl⟩
  | case3 a => exact ⟨1, rfl⟩
  | case4 => exact ⟨0, rfl⟩

/-! ## The alphabet -/

/-- The standard alphabet, in the order of the numbers that its symbols stand for. -/
def alphabet : List UInt8 :=
  Utf8.bytes "ABCDEFGHIJKLMNOPQRSTUVWXYZabcdefghijklmnopqrstuvwxyz0123456789+/"

theorem getElem?_alphabet : ∀ n < 64, alphabet[n]? = some (symbol n) := by decide +kernel

/-- The symbols of a group are in the alphabet. -/
theorem mem_alphabet_of_mem_group {a b c x : UInt8} (h : x ∈ group a b c) : x ∈ alphabet := by
  have hsymbol : ∀ n < 64, symbol n ∈ alphabet := fun n hn =>
    List.mem_of_getElem? (getElem?_alphabet n hn)
  have ha := a.toNat_lt
  have hb := b.toNat_lt
  have hc := c.toNat_lt
  simp only [group, List.mem_cons, List.not_mem_nil, or_false] at h
  rcases h with rfl | rfl | rfl | rfl
  · exact hsymbol _ (by omega)
  · exact hsymbol _ (by omega)
  · exact hsymbol _ (by omega)
  · exact hsymbol _ (by omega)

/-- An encoding is written in the alphabet and its padding, and in nothing else. -/
theorem mem_alphabet_or_eq_pad {bytes : List UInt8} {x : UInt8} (h : x ∈ encode bytes) :
    x ∈ alphabet ∨ x = pad := by
  fun_induction encode bytes with
  | case1 a b c rest ih =>
    rcases List.mem_append.1 h with hgroup | hrest
    · exact .inl (mem_alphabet_of_mem_group hgroup)
    · exact ih hrest
  | case2 a b =>
    rcases List.mem_append.1 h with hgroup | hpad
    · exact .inl (mem_alphabet_of_mem_group (List.mem_of_mem_take hgroup))
    · exact .inr (by simpa using hpad)
  | case3 a =>
    rcases List.mem_append.1 h with hgroup | hpad
    · exact .inl (mem_alphabet_of_mem_group (List.mem_of_mem_take hgroup))
    · exact .inr (by simpa using hpad)
  | case4 => cases h

end Base64

variable {σ : Type}

/-- What was written to an output: what its sink received, and what waits. -/
def Output.written (o : Output (Recorder σ)) : List UInt8 := o.sink.received ++ o.buffer

/-- An input of a stream: the bytes, and what the sink does by itself before they come. -/
structure StreamInput (σ : Type) where
  data : List UInt8
  change : σ → σ := fun sink => sink

/-- The operations that an input comes to. -/
def StreamInput.operations (input : StreamInput σ) : List (Operation σ) :=
  [.sinkChange input.change, .streamWrite input.data]

variable [Sink σ]

namespace Session

/-! ## The state of a stream -/

/-- A session whose stream was opened when `before` had been written, and took `bytes` in since.
The stream holds what fills no group; the output got the encoding of groups from the front, and
of all that are whole unless the client was seen to have gone. -/
structure Encoding (s : Session σ) (before bytes : List UInt8) : Prop where
  held_eq : s.stream.held = Base64.remainder bytes
  accounts : ∃ front, front <+: bytes ∧ 3 ∣ front.length ∧
    (s.output.aborted = false → front = Base64.wholeGroups bytes) ∧
    s.output.Accounts (before ++ Base64.encode front)

/-- A stream begins with no input. -/
theorem encoding_openStream {s : Session σ} {before : List UInt8} (h : s.output.Accounts before) :
    (s.after .openStream).Encoding before [] := by
  refine ⟨rfl, [], List.nil_prefix, Nat.dvd_zero 3, fun _ => rfl, ?_⟩
  rw [Base64.encode, List.append_nil]
  exact h

/-- A change of the sink is none of the stream. -/
theorem Encoding.sinkChange {s : Session σ} {before bytes : List UInt8}
    (h : s.Encoding before bytes) (change : σ → σ) :
    (s.after (.sinkChange change)).Encoding before bytes := by
  obtain ⟨front, hfront, hdvd, hwhole, haccounts⟩ := h.accounts
  exact ⟨h.held_eq, front, hfront, hdvd, hwhole, haccounts.withSink rfl⟩

/-- A stream holds on to what fills no group. -/
theorem held_write (stream : Base64Stream) (o : Output (Recorder σ)) (data : List UInt8) :
    (stream.write o data).1.held = Base64.remainder (stream.held ++ data) := by
  unfold Base64Stream.write Base64.remainder
  dsimp only
  split
  · next hwhole => rw [hwhole, List.drop_zero]
  · rfl

/-- What is written to a stream is grouped with what it holds. -/
theorem Encoding.streamWrite {s : Session σ} {before bytes : List UInt8}
    (h : s.Encoding before bytes) (data : List UInt8) :
    (s.after (.streamWrite data)).Encoding before (bytes ++ data) := by
  obtain ⟨front, hfront, hdvd, hwhole, haccounts⟩ := h.accounts
  have hafter := accounts_after haccounts (.streamWrite data)
  have hheld : (s.after (.streamWrite data)).stream.held = Base64.remainder (bytes ++ data) := by
    rw [Base64.remainder_append_more, ← h.held_eq]
    exact held_write s.stream s.output data
  refine ⟨hheld, ?_⟩
  cases hgone : s.output.aborted with
  | true =>
    -- nothing is appended, and the client stays gone
    have hnone : s.appends (.streamWrite data) = [] := if_pos hgone
    have hstays := aborted_after_of_aborted hgone (.streamWrite data)
    rw [hnone, List.append_nil] at hafter
    refine ⟨front, hfront.trans (List.prefix_append _ _), hdvd, fun hopen => ?_, hafter⟩
    exact absurd (hstays.symm.trans hopen) Bool.noConfusion
  | false =>
    have hgroups : s.appends (.streamWrite data) =
        Base64.encode (Base64.wholeGroups (s.stream.held ++ data)) := by
      rw [appends, hgone]
      rfl
    have hmore := Base64.wholeGroups_append_more bytes data
    refine ⟨Base64.wholeGroups (bytes ++ data), List.take_prefix _ _,
      Base64.dvd_length_wholeGroups _, fun _ => rfl, ?_⟩
    rw [hgroups, hwhole hgone, h.held_eq, List.append_assoc,
      ← Base64.encode_append _ _ (Base64.dvd_length_wholeGroups bytes), ← hmore] at hafter
    exact hafter

/-- A stream takes in one input after the other. -/
theorem Encoding.run {s : Session σ} {before bytes : List UInt8} (h : s.Encoding before bytes)
    (inputs : List (StreamInput σ)) :
    (s.run (inputs.flatMap StreamInput.operations)).Encoding before
      (bytes ++ inputs.flatMap StreamInput.data) := by
  induction inputs generalizing s bytes with
  | nil =>
    rw [List.flatMap_nil, List.flatMap_nil, List.append_nil]
    exact h
  | cons input inputs ih =>
    have hnext := (h.sinkChange input.change).streamWrite input.data
    rw [List.flatMap_cons, List.flatMap_cons, run_append, ← List.append_assoc]
    exact ih hnext

/-! ## Whole streams -/

/-- The stream was cut off: groups from the front of the encoding of `bytes` were written behind
`before`, and whatever happens, nothing more is. -/
def CutOff (s : Session σ) (before bytes : List UInt8) : Prop :=
  ∃ added, s.output.written = before ++ added ∧ added <+: Base64.encode bytes ∧
    4 ∣ added.length ∧ ∀ more, (s.run more).output.written = s.output.written

/-- Once the client was seen to have gone, nothing more is written. -/
theorem written_run_of_aborted {s : Session σ} (h : s.output.aborted = true)
    (ops : List (Operation σ)) : (s.run ops).output.written = s.output.written := by
  obtain ⟨_, hrun⟩ := run_of_aborted h ops
  rw [hrun]
  rfl

/-- Groups from the front of the input are cut off if the client was seen to have gone. -/
theorem cutOff_of_aborted {s : Session σ} {before front bytes : List UInt8}
    (h : s.output.aborted = true) (hfront : front <+: bytes) (hdvd : 3 ∣ front.length)
    (hwritten : s.output.written = before ++ Base64.encode front) : s.CutOff before bytes :=
  ⟨Base64.encode front, hwritten, Base64.encode_prefix hdvd hfront, Base64.dvd_length_encode front,
    written_run_of_aborted h⟩

/-- Closing a stream writes the rest of the encoding, or leaves it cut off. -/
theorem Encoding.streamFinish {s : Session σ} {before bytes : List UInt8}
    (h : s.Encoding before bytes) :
    let closed := s.after .streamFinish
    (closed.output.aborted = false →
      closed.output.written = before ++ Base64.encode bytes) ∧
    (closed.output.aborted = true → closed.CutOff before bytes) := by
  intro closed
  obtain ⟨front, hfront, hdvd, hwhole, haccounts⟩ := h.accounts
  have hafter := (accounts_after haccounts .streamFinish).received_append_buffer
  cases hgone : s.output.aborted with
  | true =>
    have hstays : closed.output.aborted = true := aborted_after_of_aborted hgone .streamFinish
    have hnone : s.appends .streamFinish = [] := if_pos hgone
    rw [hnone, List.append_nil] at hafter
    refine ⟨fun hopen => ?_, fun _ => cutOff_of_aborted hstays hfront hdvd hafter⟩
    exact absurd (hstays.symm.trans hopen) Bool.noConfusion
  | false =>
    have hrest : s.appends .streamFinish = Base64.encode s.stream.held := by
      rw [appends, hgone]
      rfl
    rw [hrest, hwhole hgone, h.held_eq, List.append_assoc,
      ← Base64.encode_append _ _ (Base64.dvd_length_wholeGroups bytes),
      Base64.wholeGroups_append_remainder] at hafter
    refine ⟨fun _ => hafter, fun hnow => ?_⟩
    exact ⟨Base64.encode bytes, hafter, List.prefix_refl _, Base64.dvd_length_encode bytes,
      written_run_of_aborted hnow⟩

/-- **Streams encode what could have been encoded at once.**  On an output in any state that a run
can lead to, and with inputs cut up in any way, a stream holds at most two bytes back.  While the
client is there, what was written behind that of before is the encoding of the whole groups so far,
and once the stream is closed that of the whole input, in the standard alphabet and readable as the
input.  If the client has gone, it is whole groups from the front of that, for good. -/
theorem stream_encodes (sink : σ) (ops : List (Operation σ)) (inputs : List (StreamInput σ))
    (change : σ → σ) :
    let s := (start sink).run ops
    let bytes := inputs.flatMap StreamInput.data
    let fed := s.run (.openStream :: inputs.flatMap StreamInput.operations)
    let closed := fed.run [.sinkChange change, .streamFinish]
    fed.stream.held.length ≤ 2 ∧
    (fed.output.aborted = false →
      fed.output.written = s.output.written ++
        Base64.encode (bytes.take (3 * (bytes.length / 3)))) ∧
    (closed.output.aborted = false →
      ∃ added, closed.output.written = s.output.written ++ added ∧
        added = Base64.encode bytes ∧ Base64.decode? added = some bytes ∧
        ∀ x ∈ added, x ∈ Base64.alphabet ∨ x = Base64.pad) ∧
    (fed.output.aborted = true → fed.CutOff s.output.written bytes) ∧
    (closed.output.aborted = true → closed.CutOff s.output.written bytes) := by
  intro s bytes fed closed
  have hbefore : s.output.Accounts s.output.written := by
    have haccounts := accounts_run (accounts_start sink) ops
    rw [← haccounts.received_append_buffer] at haccounts
    exact haccounts
  have hfed : fed.Encoding s.output.written bytes := (encoding_openStream hbefore).run inputs
  obtain ⟨hclosed, hcut⟩ := (hfed.sinkChange change).streamFinish
  obtain ⟨front, hfront, hdvd, hwhole, haccounts⟩ := hfed.accounts
  have hwritten := haccounts.received_append_buffer
  refine ⟨?_, fun hopen => ?_, fun hopen => ?_, fun hgone => ?_, hcut⟩
  · rw [hfed.held_eq]
    exact Base64.length_remainder_le bytes
  · rw [Nat.mul_comm]
    rw [hwhole hopen] at hwritten
    exact hwritten
  · exact ⟨_, hclosed hopen, rfl, Base64.decode?_encode bytes,
      fun x hx => Base64.mem_alphabet_or_eq_pad hx⟩
  · exact cutOff_of_aborted hgone hfront hdvd hwritten

/-- A stream in four inputs over a sink that is full for a while, and over one whose client goes
after the first groups. -/
theorem stream_encodes_hello_world :
    let full : ScriptedSink := { maxChunk := some 3, capacity := some 5 }
    let leaving : ScriptedSink := { goneAfter := some 6 }
    let inputs : List (StreamInput ScriptedSink) :=
      [{ data := Utf8.bytes "he" }, { data := [] }, { data := Utf8.bytes "llo w" },
        { data := Utf8.bytes "orld", change := fun k => { k with capacity := none } }]
    let ops := .openStream :: inputs.flatMap StreamInput.operations
    let fed := ((start full).run [.puts "x"]).run ops
    let closed := fed.run [.sinkChange fun k => k, .streamFinish]
    let cut := (((start leaving).run [.puts "x"]).run ops).run [.sinkChange fun k => k, .streamFinish]
    fed.stream.held.length ≤ 2 ∧ closed.output.aborted = false ∧
      closed.output.written = Utf8.bytes "x" ++ Utf8.bytes "aGVsbG8gd29ybGQ=" ∧
      Base64.decode? (Utf8.bytes "aGVsbG8gd29ybGQ=") = some (Utf8.bytes "hello world") ∧
      cut.output.aborted = true ∧ cut.CutOff (Utf8.bytes "x") (Utf8.bytes "hello world") := by
  intro full leaving inputs ops fed closed cut
  have hthere : closed.output.aborted = false := by
    simp only [closed, fed, ops, inputs, full]
    cbv
  have hgone : cut.output.aborted = true := by
    simp only [cut, ops, inputs, leaving]
    cbv
  have hfull : ((start full).run [.puts "x"]).output.written = Utf8.bytes "x" := by cbv
  have hleaving : ((start leaving).run [.puts "x"]).output.written = Utf8.bytes "x" := by cbv
  have hbytes : inputs.flatMap StreamInput.data = Utf8.bytes "hello world" := by decide
  have hencoded : Base64.encode (Utf8.bytes "hello world") = Utf8.bytes "aGVsbG8gd29ybGQ=" := by
    decide
  obtain ⟨hheld, -, hclosed, -, -⟩ := stream_encodes full [.puts "x"] inputs fun k => k
  obtain ⟨-, -, -, -, hcut⟩ := stream_encodes leaving [.puts "x"] inputs fun k => k
  obtain ⟨added, hwritten, hadded, hread, -⟩ := hclosed hthere
  rw [hbytes, hencoded] at hadded
  rw [hfull, hadded] at hwritten
  rw [hadded, hbytes] at hread
  have hcutOff := hcut hgone
  rw [hleaving, hbytes] at hcutOff
  exact ⟨hheld, hthere, hwritten, hread, hgone, hcutOff⟩

end Session

end DavGateway
