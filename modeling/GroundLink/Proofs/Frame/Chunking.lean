import GroundLink.Frame.Deframer

/-!
# Where a stream is cut

A deframer keeps what it cannot use yet, so the cuts in a stream do not show in what it gives. Read
`step_append` first: a move that gets anywhere is the same move when more input stands behind it.
Input that arrives during a run can therefore be put behind the buffer before the run
(`run_feed`), and feeding pieces is feeding what they join to (`push_all_eq_push`). The last
statement asks that no move is due before the first piece, which holds of everything that feeding
and resetting lead to.
-/

namespace GroundLink

namespace Received

variable (first second third : Received)

/-- Nothing received in front changes nothing. -/
@[simp] theorem none_append : none ++ first = first := rfl

/-- Frames received one after another stand in a row. -/
@[simp] theorem frames_append : (first ++ second).frames = first.frames ++ second.frames := rfl

/-- So do drops. -/
@[simp] theorem drops_append : (first ++ second).drops = first.drops ++ second.drops := rfl

/-- It does not matter which of three pieces are joined first. -/
@[simp] theorem append_assoc : first ++ second ++ third = first ++ (second ++ third) := by
  show Received.mk _ _ = Received.mk _ _
  simp only [frames_append, drops_append, List.append_assoc]

end Received

/-- A move that neither takes input, nor changes the stage, nor settles anything. -/
def Move.Stays (move : Move) (stage : Stage) : Prop :=
  move.outcome = .pending ∧ move.consumed = 0 ∧ move.next = stage

/-- A move that gets anywhere has read all the input it depends on. -/
theorem Framing.step_append (framing : Framing) (stage : Stage) (frame input more : Bytes)
    (h : ¬ (framing.step stage frame input).Stays stage) :
    framing.step stage frame (input ++ more) = framing.step stage frame input := by
  cases stage with
  | sync0 | sync1 | header =>
      cases input with
      | nil => exact absurd ⟨rfl, rfl, rfl⟩ h
      | cons byte rest => rfl
  | data length =>
      by_cases hlen : input.length < length.toNat
      · exact absurd (by simp [step, stepData, hlen, Move.Stays]) h
      · have hmore : ¬ (input ++ more).length < length.toNat := by
          rw [List.length_append]
          omega
        simp only [step, stepData, hlen, hmore, if_false,
          List.take_append_of_le_length (Nat.not_lt.mp hlen)]
  | trailer length =>
      rcases input with _ | ⟨high, _ | ⟨low, rest⟩⟩
      · exact absurd ⟨rfl, rfl, rfl⟩ h
      · exact absurd ⟨rfl, rfl, rfl⟩ h
      · rfl

namespace Deframer

/-- No move is due: the next one would stay where it is. -/
def Settled (d : Deframer) : Prop :=
  d.move.Stays d.stage

/-- The test for a move that gets nowhere says whether a deframer is settled. -/
theorem is_stalled_iff (d : Deframer) : d.isStalled d.move = true ↔ d.Settled := by
  simp only [isStalled, Settled, Move.Stays, Bool.and_eq_true, decide_eq_true_eq, and_assoc]

/-- A settled deframer makes no move. -/
theorem run_of_settled {d : Deframer} (h : d.Settled) : d.run = (d, .none) := by
  rw [run]
  simp only [d.is_stalled_iff.mpr h, dite_true]

/-- A deframer that is not settled makes the move that is due and goes on from there. -/
theorem run_of_not_settled {d : Deframer} (h : ¬ d.Settled) :
    d.run = ((d.apply d.move).1.run.1, (d.apply d.move).2 ++ (d.apply d.move).1.run.2) := by
  rw [run]
  simp only [mt d.is_stalled_iff.mp h]
  rfl

/-- What holds of settled deframers and goes back over each move holds of all deframers. -/
@[elab_as_elim]
theorem run_induction {motive : Deframer → Prop}
    (settled : ∀ d, d.Settled → motive d)
    (move : ∀ d, ¬ d.Settled → motive (d.apply d.move).1 → motive d) (d : Deframer) :
    motive d := by
  induction d using run.induct with
  | case1 d _ h => exact settled d (d.is_stalled_iff.mp h)
  | case2 d _ h _ _ ih => exact move d (mt d.is_stalled_iff.mpr h) ih

/-- A run ends settled. -/
theorem run_settled (d : Deframer) : d.run.1.Settled := by
  induction d using run_induction with
  | settled d h =>
      rw [run_of_settled h]
      exact h
  | move d h ih =>
      rw [run_of_not_settled h]
      exact ih

/-! ## More input -/

/-- Put input behind the buffer, and count its bytes. -/
def feed (d : Deframer) (data : Bytes) : Deframer :=
  { d with
    buffered := d.buffered ++ data
    tally := { d.tally with bytes := d.tally.bytes + data.length } }

/-- To push is to put input behind the buffer and to run. -/
theorem push_eq_run_feed (d : Deframer) (data : Bytes) : d.push data = (d.feed data).run := rfl

/-- No input changes nothing. -/
theorem feed_nil (d : Deframer) : d.feed [] = d := by
  simp [feed]

/-- Input that is put there twice can be put there at once. -/
theorem feed_feed (d : Deframer) (first second : Bytes) :
    (d.feed first).feed second = d.feed (first ++ second) := by
  simp [feed, Nat.add_assoc]

/-- A move that is due stays due, as it is, when more input arrives. -/
theorem move_feed {d : Deframer} (h : ¬ d.Settled) (data : Bytes) : (d.feed data).move = d.move :=
  d.framing.step_append d.stage d.frame d.buffered data h

/-- More input does not settle a deframer. -/
theorem not_settled_feed {d : Deframer} (h : ¬ d.Settled) (data : Bytes) :
    ¬ (d.feed data).Settled := by
  rw [Settled, move_feed h]
  exact h

/-- A frame is closed as it is whether or not there is more input. -/
theorem close_feed (d : Deframer) (data : Bytes) :
    (d.feed data).close = (d.close.1.feed data, d.close.2) := by
  simp only [close, show (d.feed data).framing = d.framing from rfl,
    show (d.feed data).frame = d.frame from rfl]
  cases d.framing.payload d.frame with
  | ok payload => rfl
  | error error => cases error <;> rfl

/-- Carrying out a move does not touch the input behind it. -/
theorem apply_feed (d : Deframer) (move : Move) (data : Bytes)
    (h : move.consumed ≤ d.buffered.length) :
    (d.feed data).apply move = ((d.apply move).1.feed data, (d.apply move).2) := by
  have hdrop : (d.buffered ++ data).drop move.consumed = d.buffered.drop move.consumed ++ data :=
    List.drop_append_of_le_length h
  simp only [apply, feed, hdrop]
  cases move.outcome with
  | pending => rfl
  | rejected error => cases error <;> rfl
  | complete => exact close_feed { d with
      stage := move.next, buffered := d.buffered.drop move.consumed, frame := move.frame } data

/-- Input may arrive before a run or after it: the run then goes on where it stopped. -/
theorem run_feed (d : Deframer) (data : Bytes) :
    (d.feed data).run = ((d.run.1.feed data).run.1, d.run.2 ++ (d.run.1.feed data).run.2) := by
  induction d using run_induction with
  | settled d h => rw [run_of_settled h, Received.none_append]
  | move d h ih =>
      -- the same move is due with more input behind it, and leaves that input alone
      have hconsumed := (d.framing.step_progress d.stage d.frame d.buffered).1
      rw [run_of_not_settled (not_settled_feed h data), run_of_not_settled h, move_feed h,
        apply_feed d d.move data hconsumed]
      simp only [ih, Received.append_assoc]

/-- Feeding two pieces in turn is feeding them joined. -/
theorem push_append (d : Deframer) (first second : Bytes) :
    d.push (first ++ second) =
      (((d.push first).1.push second).1, (d.push first).2 ++ ((d.push first).1.push second).2) := by
  simp only [push_eq_run_feed, ← feed_feed]
  exact run_feed (d.feed first) second

/-- Feeding two lists of pieces in turn is feeding all of them. -/
theorem push_all_append (d : Deframer) (first second : List Bytes) :
    d.pushAll (first ++ second) =
      (((d.pushAll first).1.pushAll second).1,
        (d.pushAll first).2 ++ ((d.pushAll first).1.pushAll second).2) := by
  induction first generalizing d with
  | nil => rw [List.nil_append]; rfl
  | cons piece first ih =>
      simp only [List.cons_append, pushAll, ih, Received.append_assoc]

/-- From a settled deframer, feeding pieces in turn is feeding what they join to. -/
theorem push_all_of_settled {d : Deframer} (h : d.Settled) (pieces : List Bytes) :
    d.pushAll pieces = d.push pieces.flatten := by
  induction pieces generalizing d with
  | nil =>
      -- feeding nothing still makes the moves that are due, so here the deframer must be settled
      rw [List.flatten_nil, push_eq_run_feed, feed_nil, run_of_settled h]
      rfl
  | cons piece rest ih =>
      have hrest := ih (run_settled (d.feed piece))
      rw [← push_eq_run_feed] at hrest
      rw [List.flatten_cons, push_append, ← hrest]
      rfl

/-! ## What feeding and resetting lead to -/

/-- The deframers that come from a new one by feeding and resetting, in any order. -/
inductive Reachable (framing : Framing) : Deframer → Prop where
  | new : Reachable framing (.new framing)
  | push {d : Deframer} (data : Bytes) : Reachable framing d → Reachable framing (d.push data).1
  | reset {d : Deframer} : Reachable framing d → Reachable framing d.reset

/-- A new deframer waits for input. -/
theorem new_settled (framing : Framing) : (new framing).Settled :=
  ⟨rfl, rfl, rfl⟩

/-- So does one that was reset. -/
theorem reset_settled (d : Deframer) : d.reset.Settled :=
  ⟨rfl, rfl, rfl⟩

/-- So does every deframer between two pushes. -/
theorem Reachable.settled {framing : Framing} {d : Deframer} (h : Reachable framing d) :
    d.Settled := by
  cases h with
  | new => exact new_settled framing
  | push data _ => exact run_settled _
  | reset _ => exact reset_settled _

/-- Where a stream is cut shows neither in the payloads and the dropped frames, nor in the deframer
that is left. -/
theorem push_all_eq_push {framing : Framing} {d : Deframer} (h : Reachable framing d)
    (pieces : List Bytes) : d.pushAll pieces = d.push pieces.flatten :=
  push_all_of_settled h.settled pieces

/-- A frame cut inside its mark and inside its checksum, after a reset in the middle of another. -/
theorem push_all_after_reset :
    let d := ((new .direct).push [0xAB, 0xCD, 0x02, 0x41]).1.reset
    Reachable .direct d ∧
      d.pushAll [[0xAB], [], [0xCD, 0x00, 0xFF], [0xFF, 0xAB]] =
        d.push [0xAB, 0xCD, 0x00, 0xFF, 0xFF, 0xAB] :=
  ⟨.reset (.push _ .new), push_all_eq_push (.reset (.push _ .new)) _⟩

end Deframer

end GroundLink
