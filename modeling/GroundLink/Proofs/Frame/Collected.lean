import GroundLink.Proofs.Frame.Chunking
import GroundLink.Proofs.Frame.Window

/-!
# What a deframer has collected

The stage of a deframer tells what it has collected (`Stage.Collected`): nothing, the first byte of
a mark, a mark, a mark with a length byte, or a frame without its checksum. Read `step_sound` first:
it says what one move makes of the collected bytes, for every stage. A frame that is complete
therefore always reads as one, and frames are dropped for two causes only (`Framing.Drops`), a
length above the limit and a checksum that does not match. `collected_by_stage` says so of every
deframer that feeding and resetting lead to, and of all that a run comes by.
-/

namespace GroundLink

/-- Serial frames can hold what the limit of a framing allows. -/
def Framing.Sized : Framing → Prop
  | .serial limit => limit ≤ SerialFrame.capacity
  | .relay => True

/-- The framing of every link is sized. -/
theorem LinkKind.framing_sized (kind : LinkKind) : kind.framing.Sized := by
  rw [kind.framing_eq]
  exact kind.max_payload_le

/-- What has been collected of a frame when a stage is reached. -/
def Stage.Collected (framing : Framing) : Stage → Bytes → Prop
  | .sync0, frame => frame = []
  | .sync1, frame => frame = [framing.mark.1]
  | .header, frame => frame = [framing.mark.1, framing.mark.2]
  | .data length, frame =>
      frame = [framing.mark.1, framing.mark.2, length] ∧ length.toNat ≤ framing.limit
  | .trailer length, frame =>
      [framing.mark.1, framing.mark.2, length] <+: frame ∧ frame.length = 3 + length.toNat ∧
        length.toNat ≤ framing.limit ∧ framing.isChecked = true

/-- Input that is too short for a stage to be left. -/
def Stage.Short : Stage → Bytes → Prop
  | .data length, input => input.length < length.toNat
  | .trailer _, input => input.length < 2
  | .sync0, input | .sync1, input | .header, input => input = []

/-- Why a frame is dropped, by the stage at which it is: its length is above the limit, or its
checksum has arrived and is not that of the payload. -/
inductive Framing.Drops (framing : Framing) : Stage → Drop → Prop where
  | oversized {length : UInt8} (hover : framing.limit < length.toNat) :
      Drops framing .header ⟨framing, .payloadTooLong framing.limit length.toNat,
        [framing.mark.1, framing.mark.2]⟩
  | damaged {length : UInt8} {body : Bytes} {received : UInt16}
      (hchecked : framing.isChecked = true) (hlimit : length.toNat ≤ framing.limit)
      (hbody : body.length = length.toNat) (hsum : Checksum.ofBytes body ≠ received) :
      Drops framing (.trailer length) ⟨framing, .checksumMismatch (Checksum.ofBytes body) received,
        framing.mark.1 :: framing.mark.2 :: length :: body⟩

/-! ## One move -/

/-- A move keeps what its outcome promises: a frame in progress is collected as the next stage
says, a complete frame reads as one, and a dropped frame has a cause. After the last two the hunt
begins again. -/
def Move.Sound (framing : Framing) (stage : Stage) (move : Move) : Prop :=
  match move.outcome with
  | .pending => move.next.Collected framing move.frame
  | .complete => move.next = .sync0 ∧ ∃ payload, framing.payload move.frame = .ok payload
  | .rejected error => move.next = .sync0 ∧ framing.Drops stage ⟨framing, error, move.frame⟩

/-- What has been collected for the checksum is a mark, a length byte and as many bytes. -/
theorem Stage.Collected.exists_body {framing : Framing} {length : UInt8} {frame : Bytes}
    (h : (Stage.trailer length).Collected framing frame) :
    ∃ body, frame = framing.mark.1 :: framing.mark.2 :: length :: body ∧
      body.length = length.toNat := by
  obtain ⟨⟨body, rfl⟩, hlength, -⟩ := h
  refine ⟨body, rfl, ?_⟩
  rw [List.length_append] at hlength
  exact Nat.add_left_cancel hlength

namespace Framing

variable {framing : Framing} {frame : Bytes}

/-- A payload that has arrived as a whole completes a relay frame, and leaves a serial frame to be
checked. -/
theorem stepData_sound {length : UInt8} {input : Bytes}
    (h : (Stage.data length).Collected framing frame) :
    (framing.stepData length frame input).Sound framing (.data length) := by
  obtain ⟨rfl, hlimit⟩ := h
  unfold stepData
  split
  case isTrue => exact ⟨rfl, hlimit⟩
  case isFalse hlong =>
    have hbody : (input.take length.toNat).length = length.toNat :=
      List.length_take_of_le (Nat.not_lt.mp hlong)
    cases framing with
    | serial limit =>
        have hlength : ([SerialFrame.mark.1, SerialFrame.mark.2, length] ++
            input.take length.toNat).length = 3 + length.toNat := by
          rw [List.length_append, hbody]
          rfl
        exact ⟨⟨input.take length.toNat, rfl⟩, hlength, hlimit, rfl⟩
    | relay =>
        obtain ⟨read, -, hread⟩ := RelayFrame.parse_window hbody
        refine ⟨rfl, read.payload, ?_⟩
        show Framing.relay.payload
          (RelayFrame.mark.1 :: RelayFrame.mark.2 :: length :: input.take length.toNat) = _
        rw [relay_payload, RelayFrame.payloadOf, hread]
        rfl

/-- The checksum completes a serial frame or shows that it is damaged. -/
theorem stepTrailer_sound {length : UInt8} {input : Bytes} (hsized : framing.Sized)
    (h : (Stage.trailer length).Collected framing frame) :
    (stepTrailer length frame input).Sound framing (.trailer length) := by
  unfold stepTrailer
  split
  case h_2 => exact h
  case h_1 high low rest =>
    obtain ⟨body, rfl, hbody⟩ := h.exists_body
    obtain ⟨-, -, hlimit, hchecked⟩ := h
    have htake : body.take length.toNat = body := List.take_of_length_le (Nat.le_of_eq hbody)
    simp only [List.drop_succ_cons, List.drop_zero, htake]
    split
    case isTrue hsum => exact ⟨rfl, .damaged hchecked hlimit hbody hsum⟩
    case isFalse hsum =>
      rw [not_not] at hsum
      cases framing with
      | relay => cases hchecked
      | serial limit =>
          refine ⟨rfl, body, ?_⟩
          show (Framing.serial limit).payload
            (SerialFrame.mark.1 :: SerialFrame.mark.2 :: length :: (body ++ [high, low])) = _
          rw [serial_payload_window hbody hsized hlimit,
            SerialFrame.payload_of_window hbody (Nat.le_trans hlimit hsized), if_pos hsum]

/-- Every move is sound that starts from what its stage says. -/
theorem step_sound {stage : Stage} {input : Bytes} (hsized : framing.Sized)
    (h : stage.Collected framing frame) : (framing.step stage frame input).Sound framing stage := by
  cases stage with
  | data length => exact stepData_sound h
  | trailer length => exact stepTrailer_sound hsized h
  | sync0 =>
      cases input with
      | nil => exact h
      | cons byte rest =>
          obtain rfl : frame = [] := h
          show (if byte = framing.mark.1 then _ else _ : Move).Sound framing .sync0
          split
          case isTrue hfirst => exact congrArg (fun first => [first]) hfirst
          case isFalse => rfl
  | sync1 =>
      cases input with
      | nil => exact h
      | cons byte rest =>
          obtain rfl : frame = [framing.mark.1] := h
          show (if byte = framing.mark.2 then _ else if byte = framing.mark.1 then _ else _ :
            Move).Sound framing .sync1
          split
          case isTrue hsecond => exact congrArg (fun second => [framing.mark.1, second]) hsecond
          case isFalse =>
            split
            case isTrue hfirst => exact congrArg (fun first => [first]) hfirst
            case isFalse => rfl
  | header =>
      cases input with
      | nil => exact h
      | cons byte rest =>
          obtain rfl : frame = [framing.mark.1, framing.mark.2] := h
          show (if framing.limit < byte.toNat then _ else _ : Move).Sound framing .header
          split
          case isTrue hover => exact ⟨rfl, .oversized hover⟩
          case isFalse hover => exact ⟨rfl, Nat.not_lt.mp hover⟩

/-- Hunting for a mark and reading a length takes every byte that there is. -/
theorem stepHeader_consumed (framing : Framing) (frame : Bytes) (byte : UInt8) :
    (framing.stepHeader .sync0 frame byte).consumed = 1 ∧
      (framing.stepHeader .sync1 frame byte).consumed = 1 ∧
      (framing.stepHeader .header frame byte).consumed = 1 := by
  refine ⟨?_, ?_, ?_⟩
  · show (if byte = framing.mark.1 then _ else _ : Move).consumed = 1
    split <;> rfl
  · show (if byte = framing.mark.2 then _ else if byte = framing.mark.1 then _ else _ :
      Move).consumed = 1
    split
    case isTrue => rfl
    case isFalse => split <;> rfl
  · show (if framing.limit < byte.toNat then _ else _ : Move).consumed = 1
    split <;> rfl

/-- A move gets nowhere exactly when the input is too short for its stage. -/
theorem step_stays_iff {stage : Stage} {input : Bytes} :
    (framing.step stage frame input).Stays stage ↔ stage.Short input := by
  have htakes {move : Move} {stage : Stage} (hone : move.consumed = 1) : ¬ move.Stays stage :=
    fun ⟨_, hzero, _⟩ => Nat.one_ne_zero (hone.symm.trans hzero)
  have hcons {byte : UInt8} {rest : Bytes} : byte :: rest ≠ [] := List.cons_ne_nil byte rest
  cases stage with
  | sync0 =>
      cases input with
      | nil => exact ⟨fun _ => rfl, fun _ => ⟨rfl, rfl, rfl⟩⟩
      | cons byte rest => exact iff_of_false (htakes (stepHeader_consumed ..).1) hcons
  | sync1 =>
      cases input with
      | nil => exact ⟨fun _ => rfl, fun _ => ⟨rfl, rfl, rfl⟩⟩
      | cons byte rest => exact iff_of_false (htakes (stepHeader_consumed ..).2.1) hcons
  | header =>
      cases input with
      | nil => exact ⟨fun _ => rfl, fun _ => ⟨rfl, rfl, rfl⟩⟩
      | cons byte rest => exact iff_of_false (htakes (stepHeader_consumed ..).2.2) hcons
  | data length =>
      show (framing.stepData length frame input).Stays _ ↔ input.length < length.toNat
      unfold stepData
      split
      case isTrue hshort => exact iff_of_true ⟨rfl, rfl, rfl⟩ hshort
      case isFalse hlong =>
        refine iff_of_false ?_ hlong
        -- even an empty payload leads to another stage
        cases framing with
        | serial limit => exact fun ⟨_, _, hnext⟩ => nomatch hnext
        | relay => exact fun ⟨_, _, hnext⟩ => nomatch hnext
  | trailer length =>
      match input with
      | [] => exact iff_of_true ⟨rfl, rfl, rfl⟩ Nat.two_pos
      | [_] => exact iff_of_true ⟨rfl, rfl, rfl⟩ Nat.one_lt_two
      | high :: low :: rest =>
          refine iff_of_false ?_ (fun hshort => ?_)
          · show ¬ (if _ then _ else _ : Move).Stays _
            split <;> exact fun ⟨_, _, hnext⟩ => nomatch hnext
          · simp only [Stage.Short, List.length_cons] at hshort
            omega

end Framing

namespace Deframer

/-! ## A whole run -/

/-- A deframer has collected what its stage says. -/
def Placed (d : Deframer) : Prop :=
  d.stage.Collected d.framing d.frame

/-- The deframers that a run comes by, from the first one to where no move is due. -/
inductive Passes : Deframer → Deframer → Prop where
  | start (d : Deframer) : Passes d d
  | move {d e : Deframer} : ¬ d.Settled → Passes (d.apply d.move).1 e → Passes d e

/-- A run comes by the deframer that it ends with. -/
theorem passes_run (d : Deframer) : d.Passes d.run.1 := by
  induction d using run_induction with
  | settled d h =>
      rw [run_of_settled h]
      exact .start d
  | move d h ih =>
      rw [run_of_not_settled h]
      exact .move h ih

/-- Whatever a run drops is dropped by one of the deframers that it comes by. -/
theorem passes_of_drop {d : Deframer} {drop : Drop} (h : drop ∈ d.run.2.drops) :
    ∃ e, d.Passes e ∧ drop ∈ (e.apply e.move).2.drops := by
  induction d using run_induction with
  | settled d hsettled =>
      rw [run_of_settled hsettled] at h
      cases h
  | move d hmove ih =>
      rw [run_of_not_settled hmove, Received.drops_append] at h
      rcases List.mem_append.mp h with h | h
      · exact ⟨d, .start d, h⟩
      · obtain ⟨e, hpasses, hdrop⟩ := ih h
        exact ⟨e, .move hmove hpasses, hdrop⟩

variable {d e : Deframer}

/-- Whatever a deframer gives that a run comes by is given by the run. -/
theorem Passes.frames_subset (hpasses : d.Passes e) (hmove : ¬ e.Settled) :
    (e.apply e.move).2.frames ⊆ d.run.2.frames := by
  induction hpasses with
  | start =>
      rw [run_of_not_settled hmove, Received.frames_append]
      exact List.subset_append_left _ _
  | move hfirst _ ih =>
      rw [run_of_not_settled hfirst, Received.frames_append]
      exact List.Subset.trans (ih hmove) (List.subset_append_right _ _)

/-- A complete frame that reads as one is given, and nothing is dropped. -/
theorem apply_of_complete {payload : Bytes} (hcomplete : e.move.outcome = .complete)
    (hpayload : e.framing.payload e.move.frame = .ok payload) :
    (e.apply e.move).2 = ⟨[payload], []⟩ := by
  unfold Deframer.apply
  rw [hcomplete]
  simp only [close, hpayload]

/-- Carrying out a move leaves the framing alone. -/
theorem framing_apply (d : Deframer) (move : Move) : (d.apply move).1.framing = d.framing := by
  unfold apply
  cases move.outcome with
  | pending => rfl
  | rejected error => rfl
  | complete =>
      simp only [close]
      split <;> rfl

/-- A move leads to what the next stage says, and drops a frame only for a cause of its stage. -/
theorem Placed.apply (hsized : d.framing.Sized) (h : d.Placed) :
    (d.apply d.move).1.Placed ∧
      ∀ drop ∈ (d.apply d.move).2.drops, d.framing.Drops d.stage drop := by
  have hsound : d.move.Sound d.framing d.stage := Framing.step_sound hsized h
  unfold Move.Sound at hsound
  unfold Deframer.apply
  cases houtcome : d.move.outcome with
  | pending =>
      rw [houtcome] at hsound
      exact ⟨hsound, List.forall_mem_nil _⟩
  | complete =>
      rw [houtcome] at hsound
      obtain ⟨hnext, payload, hpayload⟩ := hsound
      simp only [close, hpayload]
      exact ⟨by rw [Placed, hnext]; rfl, List.forall_mem_nil _⟩
  | rejected error =>
      rw [houtcome] at hsound
      obtain ⟨hnext, hcause⟩ := hsound
      exact ⟨by rw [Placed, hnext]; rfl, List.forall_mem_singleton.mpr hcause⟩

/-- Every deframer that a run comes by has collected what its stage says. -/
theorem Placed.passes (hsized : d.framing.Sized) (h : d.Placed) (hpasses : d.Passes e) :
    e.Placed ∧ e.framing = d.framing := by
  induction hpasses with
  | start => exact ⟨h, rfl⟩
  | @move d e hmove hpasses ih =>
      obtain ⟨hnext, -⟩ := h.apply hsized
      rw [← framing_apply d d.move] at hsized
      obtain ⟨hplaced, hframing⟩ := ih hsized hnext
      exact ⟨hplaced, hframing.trans (framing_apply d d.move)⟩

/-! ## What feeding and resetting lead to -/

variable {framing : Framing}

/-- A deframer is settled if its input is too short for its stage. -/
theorem settled_iff : d.Settled ↔ d.stage.Short d.buffered :=
  Framing.step_stays_iff

/-- A run leads to what its stage says. -/
theorem Placed.run (hsized : d.framing.Sized) (h : d.Placed) :
    d.run.1.Placed ∧ d.run.1.framing = d.framing :=
  h.passes hsized d.passes_run

/-- So do all pushes and resets. -/
theorem Reachable.placed (hsized : framing.Sized) (h : Reachable framing d) :
    d.Placed ∧ d.framing = framing := by
  induction h with
  | new => exact ⟨rfl, rfl⟩
  | @push d data _ ih =>
      obtain ⟨hplaced, rfl⟩ := ih
      exact Placed.run (d := d.feed data) hsized hplaced
  | reset _ ih => exact ⟨rfl, ih.2⟩

/-- The stage of a deframer tells what it has collected, and how little input it still keeps. While
it is fed with any piece of a stream the same holds of every deframer that the run comes by: where
a checksum is due the payload is among the collected bytes, a complete frame reads as one and is
given, and frames are dropped for a length above the limit or a checksum that does not match, and
for nothing else. -/
theorem Reachable.collected_by_stage (hsized : framing.Sized) (h : Reachable framing d) :
    d.stage.Collected framing d.frame ∧ d.stage.Short d.buffered ∧
    ∀ data,
      (∀ e, (d.feed data).Passes e →
        e.stage.Collected framing e.frame ∧
        (∀ length, e.stage = .trailer length → 3 + length.toNat ≤ e.frame.length) ∧
        (e.move.outcome = .complete → ∃ payload, framing.payload e.move.frame = .ok payload ∧
          (e.apply e.move).2 = ⟨[payload], []⟩ ∧ payload ∈ (d.push data).2.frames) ∧
        ∀ drop ∈ (e.apply e.move).2.drops, framing.Drops e.stage drop) ∧
      ∀ drop ∈ (d.push data).2.drops, ∃ stage, framing.Drops stage drop := by
  obtain ⟨hplaced, rfl⟩ := h.placed hsized
  refine ⟨hplaced, settled_iff.mp h.settled, fun data => ?_⟩
  have hpassed (e : Deframer) (hpasses : (d.feed data).Passes e) :
      e.Placed ∧ e.framing = d.framing :=
    Placed.passes (d := d.feed data) hsized hplaced hpasses
  have hdrops (e : Deframer) (hpasses : (d.feed data).Passes e) :
      ∀ drop ∈ (e.apply e.move).2.drops, d.framing.Drops e.stage drop := by
    obtain ⟨hcollected, hframing⟩ := hpassed e hpasses
    rw [← hframing] at hsized ⊢
    exact (hcollected.apply hsized).2
  refine ⟨fun e hpasses => ⟨?_, ?_, ?_, hdrops e hpasses⟩, ?_⟩
  · obtain ⟨hcollected, hframing⟩ := hpassed e hpasses
    rw [← hframing]
    exact hcollected
  · intro length hstage
    obtain ⟨hcollected, -⟩ := hpassed e hpasses
    rw [Placed, hstage] at hcollected
    exact Nat.le_of_eq hcollected.2.1.symm
  · intro hcomplete
    obtain ⟨hcollected, hframing⟩ := hpassed e hpasses
    rw [← hframing] at hsized ⊢
    have hsound : e.move.Sound e.framing e.stage := Framing.step_sound hsized hcollected
    rw [Move.Sound, hcomplete] at hsound
    obtain ⟨-, payload, hpayload⟩ := hsound
    have hgiven := apply_of_complete hcomplete hpayload
    have hmove : ¬ e.Settled := fun ⟨hpending, _⟩ => nomatch hcomplete.symm.trans hpending
    refine ⟨payload, hpayload, hgiven, hpasses.frames_subset hmove ?_⟩
    rw [hgiven]
    exact List.mem_cons_self
  · intro drop hdrop
    obtain ⟨e, hpasses, hmem⟩ := passes_of_drop hdrop
    exact ⟨e.stage, hdrops e hpasses drop hmem⟩

/-- A frame whose second payload byte is still to come, and then its checksum. If that is wrong the
frame is dropped. If it is right the frame is complete, and its payload is given. -/
theorem collected_before_damage :
    let d := ((new .direct).push [0xAB, 0xCD, 0x02, 0x41]).1
    Framing.direct.Sized ∧ Reachable .direct d ∧ d.stage = .data 2 ∧
      d.frame = [0xAB, 0xCD, 0x02] ∧ d.buffered.length < 2 ∧
      (d.push [0x42, 0x00, 0x00]).2.drops.length = 1 ∧
      (∀ drop ∈ (d.push [0x42, 0x00, 0x00]).2.drops, ∃ stage, Framing.direct.Drops stage drop) ∧
      ∃ e, (d.feed [0x42, 0xD1, 0xB1]).Passes e ∧ e.move.outcome = .complete ∧
        [0x41, 0x42] ∈ (d.push [0x42, 0xD1, 0xB1]).2.frames := by
  intro d
  have hsized : Framing.direct.Sized := LinkKind.serial.framing_sized
  have hreached : Reachable .direct d := .push _ .new
  have hstage : d.stage = .data 2 := by decide +kernel
  have hlost : (d.push [0x42, 0x00, 0x00]).2.drops.length = 1 := by decide +kernel
  obtain ⟨hcollected, hshort, hfed⟩ := Reachable.collected_by_stage hsized hreached
  rw [hstage] at hcollected hshort
  let e := ((d.feed [0x42, 0xD1, 0xB1]).apply (d.feed [0x42, 0xD1, 0xB1]).move).1
  have hpasses : (d.feed [0x42, 0xD1, 0xB1]).Passes e :=
    .move (fun ⟨_, hzero, _⟩ => absurd hzero (by decide +kernel)) (.start e)
  have hcomplete : e.move.outcome = .complete := by decide +kernel
  have hreads : Framing.direct.payload e.move.frame = .ok [0x41, 0x42] := by decide +kernel
  obtain ⟨payload, hpayload, -, hgiven⟩ := ((hfed _).1 e hpasses).2.2.1 hcomplete
  obtain rfl := Except.ok.inj (hpayload.symm.trans hreads)
  exact ⟨hsized, hreached, hstage, hcollected.1, hshort, hlost, (hfed _).2, e, hpasses, hcomplete,
    hgiven⟩

end Deframer

end GroundLink
