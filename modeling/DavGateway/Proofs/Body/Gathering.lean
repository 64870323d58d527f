/-
# Bodies gathered piece by piece

A body takes in pieces, and may be told of its end, in any order; it goes on
after a piece that it refused.  It keeps the longest run of first pieces that
stays within the limit.  All pieces are counted, refused ones too, so once one
was refused the total stays above the limit, and no later piece is kept, however
small it is.

* `LongestWithin` : the longest run of first pieces within a limit.
* `BoundedBody.Gathered` : what a body is after some pieces.
* `BoundedBody.Gathered.run` : every run of pieces and ends keeps to it.
* `BoundedBody.run_gathers` : what that means for every run of a new body.
-/
import DavGateway.Proofs.Body.Limit

namespace DavGateway

/-! ## The longest run of first pieces -/

/-- The longest run of first pieces whose length all together is within a limit. -/
structure LongestWithin (limit : Option Nat) (pieces front : List (List UInt8)) : Prop where
  front_prefix : front <+: pieces
  not_exceeds : ¬ Exceeds limit front.flatten.length
  longest : ∀ other, other <+: pieces → ¬ Exceeds limit other.flatten.length → other <+: front

/-- First pieces are no longer than all. -/
theorem length_flatten_le_length_flatten {front pieces : List (List UInt8)} (h : front <+: pieces) :
    front.flatten.length ≤ pieces.flatten.length := by
  obtain ⟨rest, rfl⟩ := h
  simp

/-- All pieces, if they are within the limit. -/
theorem longestWithin_self {limit : Option Nat} {pieces : List (List UInt8)}
    (h : ¬ Exceeds limit pieces.flatten.length) : LongestWithin limit pieces pieces :=
  ⟨List.prefix_rfl, h, fun _ hother _ => hother⟩

namespace LongestWithin

variable {limit : Option Nat} {pieces front : List (List UInt8)}

/-- Pieces within the limit are the longest run themselves. -/
theorem eq_of_not_exceeds (h : LongestWithin limit pieces front)
    (hall : ¬ Exceeds limit pieces.flatten.length) : front = pieces :=
  h.front_prefix.eq_of_length_le (h.longest pieces List.prefix_rfl hall).length_le

/-- A piece that brings all of them above the limit does not make the run longer. -/
theorem append_of_exceeds (h : LongestWithin limit pieces front) {piece : List UInt8}
    (hall : Exceeds limit (pieces ++ [piece]).flatten.length) :
    LongestWithin limit (pieces ++ [piece]) front := by
  refine ⟨h.front_prefix.trans (List.prefix_append _ _), h.not_exceeds, ?_⟩
  intro other hother hwithin
  rcases List.prefix_concat_iff.1 hother with rfl | hbefore
  · exact absurd hall hwithin
  · exact h.longest other hbefore hwithin

end LongestWithin

/-! ## What happens to a body -/

/-- What happens to a body: a piece comes, or its end. -/
inductive Arrival
  | piece (chunk : List UInt8)
  | ending
  deriving DecidableEq, Repr

/-- The piece that comes, if one does. -/
def Arrival.piece? : Arrival → Option (List UInt8)
  | piece chunk => some chunk
  | ending => none

/-- The pieces that come, in their order. -/
def pieces (arrivals : List Arrival) : List (List UInt8) := arrivals.filterMap Arrival.piece?

@[simp] theorem pieces_nil : pieces [] = [] := rfl

@[simp] theorem pieces_piece_cons (chunk : List UInt8) (arrivals : List Arrival) :
    pieces (.piece chunk :: arrivals) = chunk :: pieces arrivals := rfl

@[simp] theorem pieces_ending_cons (arrivals : List Arrival) :
    pieces (.ending :: arrivals) = pieces arrivals := rfl

@[simp] theorem pieces_append (arrivals more : List Arrival) :
    pieces (arrivals ++ more) = pieces arrivals ++ pieces more := List.filterMap_append

/-- What comes first comes before the rest. -/
theorem pieces_cons (a : Arrival) (arrivals : List Arrival) :
    pieces (a :: arrivals) = pieces [a] ++ pieces arrivals := pieces_append [a] arrivals

namespace BoundedBody

/-- The body after something has come. -/
def after (b : BoundedBody) : Arrival → BoundedBody
  | .piece chunk => (b.push chunk).body
  | .ending => b.finish

/-- The body after all that has come, refused pieces included. -/
def run (b : BoundedBody) (arrivals : List Arrival) : BoundedBody := arrivals.foldl after b

@[simp] theorem run_nil (b : BoundedBody) : b.run [] = b := rfl

@[simp] theorem run_cons (b : BoundedBody) (a : Arrival) (arrivals : List Arrival) :
    b.run (a :: arrivals) = (b.after a).run arrivals := rfl

/-- Whether some piece of a run is not accepted. -/
def Refuses (b : BoundedBody) (arrivals : List Arrival) : Prop :=
  ∃ before chunk rest, arrivals = before ++ .piece chunk :: rest ∧
    ((b.run before).push chunk).result ≠ .ok ()

/-- Whether a piece is refused as too large, and nothing of it kept. -/
def RefusesPiece (b : BoundedBody) (limit : Option Nat) (chunk : List UInt8) : Prop :=
  ∃ l ∈ limit, (b.push chunk).result = .error (.tooLarge l) ∧ (b.push chunk).body.kept = b.kept

/-! ## One arrival -/

/-- What a body is after some pieces: it keeps the longest run of first ones within the limit, and
has counted them all. -/
structure Gathered (b : BoundedBody) (limit : Option Nat) (past : List (List UInt8)) :
    Prop where
  kept_longest : ∃ front, LongestWithin limit past front ∧ b.kept = front.flatten
  totalRead_eq : b.totalRead = past.flatten.length
  limit_eq : b.limit = limit.filter (0 < ·)

variable {b : BoundedBody} {limit : Option Nat} {past : List (List UInt8)}

/-- The total that a piece would make. -/
theorem Gathered.totalRead_add (h : b.Gathered limit past) (chunk : List UInt8) :
    b.totalRead + chunk.length = (past ++ [chunk]).flatten.length := by
  simp [h.totalRead_eq]

/-- A piece within the limit is accepted. -/
theorem Gathered.push_of_not_exceeds (h : b.Gathered limit past) {chunk : List UInt8}
    (hwithin : ¬ Exceeds limit (past ++ [chunk]).flatten.length) :
    (b.push chunk).result = .ok () ∧ (b.push chunk).body.Gathered limit (past ++ [chunk]) := by
  obtain ⟨front, hfront, hkept⟩ := h.kept_longest
  -- so all pieces before were within the limit, and were kept
  have hbefore : ¬ Exceeds limit past.flatten.length := fun hexceeds =>
    hwithin (hexceeds.mono (length_flatten_le_length_flatten (List.prefix_append _ _)))
  rw [hfront.eq_of_not_exceeds hbefore] at hkept
  have hnone : b.exceeded? (b.totalRead + chunk.length) = none := by
    rw [h.totalRead_add, exceeded?_eq_none_iff h.limit_eq]
    exact hwithin
  rw [push_of_exceeded?_eq_none hnone]
  refine ⟨rfl, ⟨⟨_, longestWithin_self hwithin, ?_⟩, h.totalRead_add chunk, h.limit_eq⟩⟩
  simp [hkept]

/-- A piece that brings the total above the limit is refused, and counted. -/
theorem Gathered.push_of_exceeds (h : b.Gathered limit past) {chunk : List UInt8}
    (hexceeds : Exceeds limit (past ++ [chunk]).flatten.length) :
    b.RefusesPiece limit chunk ∧ (b.push chunk).body.Gathered limit (past ++ [chunk]) := by
  obtain ⟨front, hfront, hkept⟩ := h.kept_longest
  obtain ⟨l, hl⟩ := id hexceeds
  have hsome : b.exceeded? (b.totalRead + chunk.length) = some l := by
    rw [h.totalRead_add, exceeded?_eq_some_iff h.limit_eq]
    exact hl
  rw [RefusesPiece, push_of_exceeded?_eq_some hsome]
  exact ⟨⟨l, hl.1, rfl, rfl⟩,
    ⟨⟨front, hfront.append_of_exceeds hexceeds, hkept⟩, h.totalRead_add chunk, h.limit_eq⟩⟩

/-- The end changes nothing of that. -/
theorem Gathered.finish (h : b.Gathered limit past) : b.finish.Gathered limit past :=
  ⟨h.kept_longest, h.totalRead_eq, h.limit_eq⟩

/-- Whatever comes, the body keeps to the pieces so far. -/
theorem Gathered.after (h : b.Gathered limit past) (a : Arrival) :
    (b.after a).Gathered limit (past ++ pieces [a]) := by
  cases a with
  | piece chunk =>
    by_cases hexceeds : Exceeds limit (past ++ [chunk]).flatten.length
    · exact (h.push_of_exceeds hexceeds).2
    · exact (h.push_of_not_exceeds hexceeds).2
  | ending =>
    rw [pieces_ending_cons, pieces_nil, List.append_nil]
    exact h.finish

/-! ## Runs -/

/-- After a run the body keeps to all its pieces. -/
theorem Gathered.run (h : b.Gathered limit past) (arrivals : List Arrival) :
    (b.run arrivals).Gathered limit (past ++ pieces arrivals) := by
  induction arrivals generalizing b past with
  | nil =>
    rw [pieces_nil, List.append_nil]
    exact h
  | cons a arrivals ih =>
    rw [pieces_cons, ← List.append_assoc]
    exact ih (h.after a)

/-- A piece is accepted just if the total with it is within the limit. -/
theorem Gathered.push_eq_ok_iff (h : b.Gathered limit past) {chunk : List UInt8} :
    (b.push chunk).result = .ok () ↔ ¬ Exceeds limit (past ++ [chunk]).flatten.length := by
  constructor
  · intro hok hexceeds
    obtain ⟨l, -, herror, -⟩ := (h.push_of_exceeds hexceeds).1
    rw [herror] at hok
    cases hok
  · exact fun hwithin => (h.push_of_not_exceeds hwithin).1

/-- Some piece is not accepted just if all of them together are above the limit, and those before
the run were not. -/
theorem Gathered.refuses_iff (h : b.Gathered limit past)
    (hbefore : ¬ Exceeds limit past.flatten.length) (arrivals : List Arrival) :
    b.Refuses arrivals ↔
      Exceeds limit (past ++ pieces arrivals).flatten.length := by
  constructor
  · rintro ⟨before, chunk, rest, rfl, hrefused⟩
    rw [Ne, (h.run before).push_eq_ok_iff, not_not] at hrefused
    refine hrefused.mono (length_flatten_le_length_flatten ⟨pieces rest, ?_⟩)
    simp
  · -- at the first piece that brings the total above the limit
    intro hexceeds
    induction arrivals generalizing b past with
    | nil =>
      rw [pieces_nil, List.append_nil] at hexceeds
      exact absurd hexceeds hbefore
    | cons a arrivals ih =>
      rw [pieces_cons, ← List.append_assoc] at hexceeds
      by_cases hnow : Exceeds limit (past ++ pieces [a]).flatten.length
      · cases a with
        | piece chunk =>
          refine ⟨[], chunk, arrivals, rfl, ?_⟩
          rw [Ne, run_nil, h.push_eq_ok_iff, not_not]
          exact hnow
        | ending =>
          rw [pieces_ending_cons, pieces_nil, List.append_nil] at hnow
          exact absurd hnow hbefore
      · obtain ⟨before, chunk, rest, rfl, hrefused⟩ := ih (h.after a) hnow hexceeds
        exact ⟨a :: before, chunk, rest, rfl, hrefused⟩

/-- Once the total is above the limit, it stays there. -/
theorem Gathered.refusesPiece_of_exceeds (h : b.Gathered limit past)
    (hexceeds : Exceeds limit past.flatten.length) (chunk : List UInt8) :
    b.RefusesPiece limit chunk :=
  (h.push_of_exceeds
    (hexceeds.mono (length_flatten_le_length_flatten (List.prefix_append _ _)))).1

/-- Then nothing more is kept. -/
theorem Gathered.kept_run_of_exceeds (h : b.Gathered limit past)
    (hexceeds : Exceeds limit past.flatten.length) (more : List Arrival) :
    (b.run more).kept = b.kept := by
  induction more generalizing b past with
  | nil => rfl
  | cons a more ih =>
    have hlater : Exceeds limit (past ++ pieces [a]).flatten.length :=
      hexceeds.mono (length_flatten_le_length_flatten (List.prefix_append _ _))
    rw [run_cons, ih (h.after a) hlater]
    cases a with
    | piece chunk =>
      obtain ⟨_, -, -, hkept⟩ := h.refusesPiece_of_exceeds hexceeds chunk
      exact hkept
    | ending => rfl

/-! ## The note of the end -/

/-- The body with another note of its end. -/
def noted (b : BoundedBody) (ended : Bool) : BoundedBody := { b with endReached := ended }

/-- A piece does not end a body. -/
theorem endReached_push (b : BoundedBody) (chunk : List UInt8) :
    (b.push chunk).body.endReached = b.endReached := by
  unfold push
  dsimp only
  split <;> rfl

/-- A piece is taken in the same way whether or not the end was noted. -/
theorem push_noted (b : BoundedBody) (ended : Bool) (chunk : List UInt8) :
    ((b.noted ended).push chunk).body = (b.push chunk).body.noted ended := by
  cases h : b.exceeded? (b.totalRead + chunk.length) with
  | some l =>
    rw [push_of_exceeded?_eq_some h, push_of_exceeded?_eq_some (b := b.noted ended) h]
    rfl
  | none =>
    rw [push_of_exceeded?_eq_none h, push_of_exceeded?_eq_none (b := b.noted ended) h]
    rfl

/-- So is a run of pieces. -/
theorem run_piece_noted (b : BoundedBody) (ended : Bool) (past : List (List UInt8)) :
    (b.noted ended).run (past.map .piece) = (b.run (past.map .piece)).noted ended := by
  induction past generalizing b with
  | nil => rfl
  | cons chunk past ih =>
    rw [List.map_cons, run_cons, run_cons, after, after, push_noted, ih]

/-- An end among the pieces leaves its note, and changes nothing else. -/
theorem run_eq_noted (b : BoundedBody) (arrivals : List Arrival) :
    b.run arrivals =
      (b.run ((pieces arrivals).map .piece)).noted
        (b.endReached || decide (.ending ∈ arrivals)) := by
  induction arrivals generalizing b with
  | nil => simp [noted]
  | cons a arrivals ih =>
    cases a with
    | piece chunk =>
      simp [ih, after, endReached_push]
    | ending =>
      rw [run_cons, show b.after .ending = b.noted true from rfl, ih, pieces_ending_cons,
        run_piece_noted]
      simp [noted]

/-! ## New bodies -/

/-- A body that was started has nothing but its limit. -/
theorem eq_of_start_eq_ok {declared : Nat} {limit : Option Nat} {b : BoundedBody}
    (h : (start declared limit).1 = .ok b) : b = { limit := limit.filter (0 < ·) } := by
  unfold start at h
  dsimp only at h
  split at h
  · cases h
  · exact (Except.ok.inj h).symm

/-- A new body has gathered nothing. -/
theorem gathered_nil (limit : Option Nat) :
    ({ limit := limit.filter (0 < ·) } : BoundedBody).Gathered limit [] :=
  ⟨⟨[], longestWithin_self (not_exceeds_zero limit), rfl⟩, rfl, rfl⟩

/-- **Bodies are gathered within a limit.**  In every run of pieces and ends, which goes on after
refused pieces, a body keeps the longest run of first pieces within the limit and counts all of
them.  A piece is accepted just if the total with it is within the limit, and otherwise too large
and not kept.  So while none was refused all pieces are kept, and once one was, each later one is,
and what is kept stays.  An end leaves its note and nothing else. -/
theorem run_gathers {declared : Nat} {limit : Option Nat} {new : BoundedBody}
    (hstart : (start declared limit).1 = .ok new) (arrivals : List Arrival) :
    let b := new.run arrivals
    (∃ front, LongestWithin limit (pieces arrivals) front ∧ b.kept = front.flatten) ∧
    b.totalRead = (pieces arrivals).flatten.length ∧
    ¬ Exceeds limit b.kept.length ∧
    (∀ chunk, ((b.push chunk).result = .ok () ↔ ¬ Exceeds limit (b.totalRead + chunk.length)) ∧
      (Exceeds limit (b.totalRead + chunk.length) → b.RefusesPiece limit chunk)) ∧
    (¬ new.Refuses arrivals → b.kept.length = b.totalRead) ∧
    (new.Refuses arrivals → ∀ more chunk,
      (b.run more).kept = b.kept ∧ (b.run more).RefusesPiece limit chunk) ∧
    b.finish = { b with endReached := true } ∧
    b = { new.run ((pieces arrivals).map .piece) with
      endReached := decide (.ending ∈ arrivals) } := by
  intro b
  obtain rfl := eq_of_start_eq_ok hstart
  have hnew := gathered_nil limit
  have hb : b.Gathered limit (pieces arrivals) := hnew.run arrivals
  obtain ⟨front, hfront, hkept⟩ := hb.kept_longest
  refine ⟨⟨front, hfront, hkept⟩, hb.totalRead_eq, ?_, fun chunk => ⟨?_, fun hexceeds => ?_⟩,
    fun hnone => ?_, fun hsome more chunk => ?_, rfl, run_eq_noted _ arrivals⟩
  · rw [hkept]
    exact hfront.not_exceeds
  · rw [hb.push_eq_ok_iff, hb.totalRead_add]
  · rw [hb.totalRead_add] at hexceeds
    exact (hb.push_of_exceeds hexceeds).1
  · rw [hnew.refuses_iff (not_exceeds_zero limit)] at hnone
    rw [hkept, hb.totalRead_eq, hfront.eq_of_not_exceeds hnone]
  · rw [hnew.refuses_iff (not_exceeds_zero limit)] at hsome
    have hmore : Exceeds limit (pieces arrivals ++ pieces more).flatten.length :=
      hsome.mono (length_flatten_le_length_flatten (List.prefix_append _ _))
    exact ⟨hb.kept_run_of_exceeds hsome more, (hb.run more).refusesPiece_of_exceeds hmore chunk⟩

/-- A piece that would fit comes behind one that does not, and is refused like it. -/
theorem run_gathers_refused_piece :
    let new : BoundedBody := { limit := some 4 }
    let arrivals : List Arrival := [.piece [1, 2], .ending, .piece [3, 4, 5], .piece []]
    (start 3 (some 4)).1 = .ok new ∧ new.Refuses arrivals ∧
      (new.run arrivals).kept = [1, 2] ∧ (new.run arrivals).totalRead = 5 ∧
      (new.run (arrivals ++ [.piece [6]])).kept = [1, 2] ∧
      (new.run (arrivals ++ [.piece [6]])).RefusesPiece (some 4) [7] := by
  intro new arrivals
  have hstart : (start 3 (some 4)).1 = .ok new := rfl
  have hrefuses : new.Refuses arrivals := by
    refine ⟨[.piece [1, 2], .ending], [3, 4, 5], [.piece []], rfl, ?_⟩
    intro hok
    cases hok
  have hkept : (new.run arrivals).kept = [1, 2] := rfl
  obtain ⟨-, htotal, -, -, -, hlater, -⟩ := run_gathers hstart arrivals
  obtain ⟨hstays, hrefused⟩ := hlater hrefuses [.piece [6]] [7]
  exact ⟨hstart, hrefuses, hkept, htotal, hstays.trans hkept, hrefused⟩

end BoundedBody

end DavGateway
