import GroundLink.Proofs.Frame.Collected

/-!
# How soon a deframer settles

Feeding makes moves until one gets nowhere. An empty payload is taken without a byte, so there are
more moves than bytes, and the length of the input alone does not bound them. `Deframer.effort`
does: it counts two for each byte of input left and one where a payload is due. Read `effort_apply`
first: every move that gets anywhere lowers it. `Settles` lists the deframers at which a move is
worked out, and `push_settles_in_time` bounds their number by two for each byte and two more.

Nothing is asked of the deframer that is fed, not even that feeding and resetting lead to it, but
that the bytes in front of its stage have been collected (`Stage.held`). They then are at every
move, so the payload is there wherever its checksum is computed.
-/

namespace GroundLink

namespace Stage

/-- How many bytes of a frame lie in front of a stage: the two of the mark, the length byte and the
payload. -/
def held : Stage → Nat
  | .sync0 => 0
  | .sync1 => 1
  | .header => 2
  | .data _ => 3
  | .trailer length => 3 + length.toNat

/-- Stages have two ranks. -/
theorem rank_le_one (stage : Stage) : stage.rank ≤ 1 := by
  cases stage with
  | data length => exact Nat.le_refl 1
  | sync0 | sync1 | header | trailer _ => exact Nat.zero_le 1

end Stage

/-- A move has collected the bytes in front of the next stage, or else begins the hunt. A move that
settles a frame always begins the hunt. -/
def Move.Holds (move : Move) : Prop :=
  (move.outcome = .pending ∧ move.next.held ≤ move.frame.length) ∨ move.next = .sync0

namespace Framing

variable {framing : Framing} {stage : Stage} {frame input : Bytes}

/-- A move that gets nowhere leaves alone what has been collected. -/
theorem step_frame_of_stays (h : (framing.step stage frame input).Stays stage) :
    (framing.step stage frame input).frame = frame := by
  have hshort : stage.Short input := step_stays_iff.mp h
  cases stage with
  | sync0 | sync1 | header =>
      obtain rfl : input = [] := hshort
      rfl
  | data length =>
      have hless : input.length < length.toNat := hshort
      simp only [step, stepData, if_pos hless]
  | trailer length =>
      have hless : input.length < 2 := hshort
      rcases input with _ | ⟨high, _ | ⟨low, rest⟩⟩
      · rfl
      · rfl
      · simp only [List.length_cons] at hless
        omega

/-- A move on a mark or a length holds the bytes that its stage has. -/
theorem stepHeader_holds {byte : UInt8} (h : stage.held ≤ frame.length) :
    (framing.stepHeader stage frame byte).Holds := by
  have hcollect : stage.held + 1 ≤ (frame ++ [byte]).length := by
    rw [List.length_append]
    exact Nat.succ_le_succ h
  cases stage with
  | sync0 =>
      simp only [stepHeader]
      split
      case isTrue => exact .inl ⟨rfl, hcollect⟩
      case isFalse => exact .inr rfl
  | sync1 =>
      simp only [stepHeader]
      split
      case isTrue => exact .inl ⟨rfl, hcollect⟩
      case isFalse =>
        -- the byte may be the first of another mark, and is then all that is kept
        split
        case isTrue => exact .inl ⟨rfl, Nat.le_refl 1⟩
        case isFalse => exact .inr rfl
  | header =>
      simp only [stepHeader]
      split
      case isTrue => exact .inr rfl
      case isFalse => exact .inl ⟨rfl, hcollect⟩
  | data length => exact .inl ⟨rfl, h⟩
  | trailer length => exact .inl ⟨rfl, h⟩

/-- So does a move on a payload. -/
theorem stepData_holds {length : UInt8} (h : 3 ≤ frame.length) :
    (framing.stepData length frame input).Holds := by
  unfold stepData
  split
  case isTrue => exact .inl ⟨rfl, h⟩
  case isFalse hlong =>
    split
    case isTrue =>
      refine .inl ⟨rfl, ?_⟩
      rw [List.length_append, List.length_take_of_le (Nat.not_lt.mp hlong)]
      exact Nat.add_le_add_right h length.toNat
    case isFalse => exact .inr rfl

/-- So does a move on a checksum. -/
theorem stepTrailer_holds {length : UInt8} (h : 3 + length.toNat ≤ frame.length) :
    (stepTrailer length frame input).Holds := by
  unfold stepTrailer
  split
  case h_1 =>
    -- whether the checksum matches or not, the frame is settled
    simp only
    split <;> exact .inr rfl
  case h_2 => exact .inl ⟨rfl, h⟩

/-- Every move holds that starts with the bytes in front of its stage. -/
theorem step_holds (h : stage.held ≤ frame.length) : (framing.step stage frame input).Holds := by
  cases stage with
  | data length => exact stepData_holds h
  | trailer length => exact stepTrailer_holds h
  | sync0 | sync1 | header =>
      cases input with
      | nil => exact .inl ⟨rfl, h⟩
      | cons byte rest => exact stepHeader_holds h

end Framing

namespace Deframer

variable {d : Deframer} {visited : List Deframer} {last : Deframer × Received}

/-! ## One move -/

/-- Two for each byte of input left, and one where a payload is due, since it may be empty. -/
def effort (d : Deframer) : Nat :=
  2 * d.buffered.length + d.stage.rank

/-- A move that gets anywhere lowers the effort. -/
theorem effort_apply (h : ¬ d.Settled) : (d.apply d.move).1.effort < d.effort := by
  obtain ⟨hbuffered, hstage⟩ := d.apply_fst d.move
  obtain ⟨-, hprogress⟩ := d.framing.step_progress d.stage d.frame d.buffered
  rw [effort, effort, hbuffered, hstage, List.length_drop]
  exact hprogress.resolve_right h

/-- A deframer is settled as soon as the move that is due neither takes input nor changes the
stage: a move that settles a frame does one or the other. -/
theorem settled_iff_idle : d.Settled ↔ d.move.consumed = 0 ∧ d.move.next = d.stage := by
  refine ⟨And.right, fun ⟨hconsumed, hnext⟩ => ?_⟩
  by_contra hmove
  have hless := effort_apply hmove
  obtain ⟨hbuffered, hstage⟩ := d.apply_fst d.move
  rw [effort, effort, hbuffered, hstage, hconsumed, hnext, List.drop_zero] at hless
  exact Nat.lt_irrefl _ hless

/-- Carrying out a move that gets nowhere changes nothing. -/
theorem apply_of_settled (h : d.Settled) : d.apply d.move = (d, .none) := by
  have hframe : d.move.frame = d.frame := Framing.step_frame_of_stays h
  obtain ⟨houtcome, hconsumed, hnext⟩ := h
  simp only [apply, houtcome, hconsumed, hnext, hframe, List.drop_zero]

/-- When a move has been carried out, the bytes in front of the next stage have been collected. -/
theorem held_apply (h : d.stage.held ≤ d.frame.length) :
    (d.apply d.move).1.stage.held ≤ (d.apply d.move).1.frame.length := by
  have hholds : d.move.Holds := Framing.step_holds h
  rw [(d.apply_fst d.move).2]
  rcases hholds with ⟨houtcome, hheld⟩ | hnext
  · simp only [apply, houtcome]
    exact hheld
  · rw [hnext]
    exact Nat.zero_le _

/-! ## All moves -/

/-- Making moves until one gets nowhere, with the deframers at which a move is worked out and what
is left and received in the end. Every move is carried out, the last one too. -/
inductive Settles : Deframer → List Deframer → Deframer × Received → Prop where
  | rest {d : Deframer} : d.Settled → Settles d [d] (d.apply d.move)
  | move {d : Deframer} {visited : List Deframer} {last : Deframer × Received} :
      ¬ d.Settled → Settles (d.apply d.move).1 visited last →
      Settles d (d :: visited) (last.1, (d.apply d.move).2 ++ last.2)

/-- Every deframer settles. -/
theorem exists_settles (d : Deframer) : ∃ visited last, d.Settles visited last := by
  -- by the effort and not along `run`, which comes to an end by its definition
  induction heffort : d.effort using Nat.strongRecOn generalizing d with
  | ind effort ih =>
      subst heffort
      by_cases hsettled : d.Settled
      · exact ⟨_, _, .rest hsettled⟩
      · obtain ⟨visited, last, hrest⟩ := ih _ (effort_apply hsettled) _ rfl
        exact ⟨_, _, .move hsettled hrest⟩

namespace Settles

/-- There is one way to settle. -/
theorem eq_run (h : d.Settles visited last) : last = d.run := by
  induction h with
  | rest hsettled => rw [run_of_settled hsettled, apply_of_settled hsettled]
  | move hmove _ ih => rw [run_of_not_settled hmove, ih]

/-- Moves are worked out as often as the effort says, and once more to find that none is due. -/
theorem length_le (h : d.Settles visited last) : visited.length ≤ d.effort + 1 := by
  induction h with
  | rest => exact Nat.succ_le_succ (Nat.zero_le _)
  | move hmove _ ih =>
      have hless := effort_apply hmove
      rw [List.length_cons]
      omega

/-- All that a run visits hold the bytes that their stages have. -/
theorem held (h : d.Settles visited last) (hheld : d.stage.held ≤ d.frame.length) :
    ∀ e ∈ visited, e.stage.held ≤ e.frame.length := by
  induction h with
  | rest => exact List.forall_mem_singleton.mpr hheld
  | move _ _ ih => exact List.forall_mem_cons.mpr ⟨hheld, ih (held_apply hheld)⟩

/-- A run ends where no move is due. -/
theorem last_settled (h : d.Settles visited last) : last.1.Settled := by
  rw [h.eq_run]
  exact d.run_settled

/-- A run visits what it ends with. -/
theorem last_mem (h : d.Settles visited last) : last.1 ∈ visited := by
  induction h with
  | rest hsettled =>
      rw [apply_of_settled hsettled]
      exact List.mem_singleton_self _
  | move _ _ ih => exact List.mem_cons_of_mem _ ih

/-- Of all deframers at which a move is worked out only the last one is settled. -/
theorem settled_iff_last (h : d.Settles visited last) :
    ∀ e ∈ visited, e.Settled ↔ e = last.1 := by
  induction h with
  | rest hsettled =>
      rw [apply_of_settled hsettled]
      exact List.forall_mem_singleton.mpr (iff_of_true hsettled rfl)
  | move hmove hrest ih =>
      refine List.forall_mem_cons.mpr ⟨iff_of_false hmove (fun hlast => hmove ?_), ih⟩
      rw [hlast]
      exact hrest.last_settled

end Settles

/-- Feeding comes to an end, whatever the framing, the stage and the input, if only the bytes in
front of the stage have been collected. No more moves are worked out than two for each byte, kept or
fed, and two. At each of them the bytes in front of the stage are there, and no more input is taken
than there is. The end comes at the first move that neither takes input nor changes the stage, and
then the stage lacks input. -/
theorem push_settles_in_time (d : Deframer) (data : Bytes)
    (hheld : d.stage.held ≤ d.frame.length) :
    (∃ visited last, (d.feed data).Settles visited last) ∧
    ∀ visited last, (d.feed data).Settles visited last →
      last = d.push data ∧
      visited.length ≤ 2 * (d.buffered.length + data.length) + 2 ∧
      (∀ e ∈ visited, e.stage.held ≤ e.frame.length ∧ e.move.consumed ≤ e.buffered.length ∧
        (e.move.consumed = 0 ∧ e.move.next = e.stage ↔ e = last.1)) ∧
      last.1 ∈ visited ∧ last.1.stage.Short last.1.buffered := by
  refine ⟨exists_settles _, fun visited last h => ⟨h.eq_run, ?_, fun e he => ?_, h.last_mem, ?_⟩⟩
  · have hlength : visited.length ≤ 2 * (d.buffered ++ data).length + d.stage.rank + 1 :=
      h.length_le
    have hrank := d.stage.rank_le_one
    rw [List.length_append] at hlength
    omega
  · refine ⟨h.held hheld e he, ?_, ?_⟩
    · exact (e.framing.step_progress e.stage e.frame e.buffered).1
    · rw [← settled_iff_idle]
      exact h.settled_iff_last e he
  · exact settled_iff.mp h.last_settled

/-- An empty relay frame is due behind four bytes that are no mark of one, where feeding does not
lead. Another empty frame follows, cut behind its first byte. -/
theorem settles_on_empty_frames :
    let d : Deframer := ⟨.relay, .data 0, [0x22], [0x00, 0x11, 0x33, 0x44], .zero⟩
    d.stage.held ≤ d.frame.length ∧
      (d.push [0x69, 0x00]).2.frames = [[]] ∧ (d.push [0x69, 0x00]).2.drops.length = 1 ∧
      ∃ visited, (d.feed [0x69, 0x00]).Settles visited (d.push [0x69, 0x00]) ∧
        visited.length ≤ 8 := by
  intro d
  have hheld : d.stage.held ≤ d.frame.length := by decide
  obtain ⟨⟨visited, last, h⟩, hbounds⟩ := push_settles_in_time d [0x69, 0x00] hheld
  obtain ⟨rfl, hlength, -⟩ := hbounds visited last h
  exact ⟨hheld, by decide +kernel, by decide +kernel, visited, h, hlength⟩

end Deframer

end GroundLink
