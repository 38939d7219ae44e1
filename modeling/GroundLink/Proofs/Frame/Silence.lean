import GroundLink.Proofs.Frame.Collected
import GroundLink.Proofs.Link.Wire

/-!
# Silence on the line

Noise can look like a mark and a length byte, and then a receiver waits for a frame that nobody
sends. It comes back to the hunt by itself once enough bytes pass in which no mark can begin.
`Stage.owed` is the most input that a stage can still ask for, and `Stage.blind` is how much of it
belongs to the frame in progress, whatever it is. A stage is `Hushed` by input that has the first
and has no mark behind the second. Read `step_hushed` first: every move leaves a hushed stage.
Where no move is due a hushed stage is the hunt with no input left, and `hunts_after_silence` draws
the conclusion for every deframer that feeding and resetting lead to.
-/

namespace GroundLink

/-- How many bytes without the first byte of a mark bring every deframer back to the hunt: a byte
for the second of the mark, one for the length, the longest payload and the trailer. -/
def Framing.silence : Framing → Nat
  | .serial limit => limit + 4
  | .relay => 257

/-- A silence is as long as the longest payload with its trailer, and two bytes more. -/
theorem Framing.silence_eq (framing : Framing) :
    framing.silence = framing.limit + framing.trailerLength + 2 := by
  cases framing <;> rfl

namespace Stage

/-- The most input that a stage asks for before the hunt begins again, as long as no mark begins. -/
def owed (framing : Framing) : Stage → Nat
  | .sync0 => 0
  | .sync1 => framing.limit + framing.trailerLength + 2
  | .header => framing.limit + framing.trailerLength + 1
  | .data length => length.toNat + framing.trailerLength
  | .trailer _ => 2

/-- How much of the input belongs to the frame in progress. -/
def blind (framing : Framing) : Stage → Nat
  | .sync0 | .sync1 | .header => 0
  | .data length => length.toNat + framing.trailerLength
  | .trailer _ => 2

/-- The input has all that a stage can ask for, and no mark begins behind the frame in progress. -/
structure Hushed (framing : Framing) (stage : Stage) (input : Bytes) : Prop where
  enough : stage.owed framing ≤ input.length
  quiet : framing.mark.1 ∉ input.drop (stage.blind framing)

variable {framing : Framing} {stage : Stage} {frame input : Bytes}

/-- No stage asks for more than a silence. -/
theorem Collected.owed_le (h : stage.Collected framing frame) :
    stage.owed framing ≤ framing.silence := by
  rw [framing.silence_eq]
  cases stage with
  | sync0 => exact Nat.zero_le _
  | sync1 => exact Nat.le_refl _
  | header => exact Nat.le_succ _
  | data length =>
      have hlimit : length.toNat ≤ framing.limit := h.2
      show length.toNat + framing.trailerLength ≤ _
      omega
  | trailer length => exact Nat.le_add_left 2 _

/-- What a stage still keeps is part of the frame in progress. -/
theorem Short.length_le (h : stage.Short input) : input.length ≤ stage.blind framing := by
  cases stage with
  | sync0 | sync1 | header =>
      obtain rfl : input = [] := h
      exact Nat.le_refl _
  | data length => exact Nat.le_add_right_of_le (Nat.le_of_lt h)
  | trailer length => exact Nat.le_of_lt h

/-- Silence behind what a stage still keeps hushes it. -/
theorem Short.hushed {quiet : Bytes} (hcollected : stage.Collected framing frame)
    (hshort : stage.Short input) (hlong : framing.silence ≤ quiet.length)
    (hquiet : framing.mark.1 ∉ quiet) : stage.Hushed framing (input ++ quiet) where
  enough := by
    have howed := hcollected.owed_le
    rw [List.length_append]
    omega
  quiet := by
    rw [List.drop_append, List.drop_of_length_le hshort.length_le, List.nil_append]
    exact fun hmem => hquiet (List.mem_of_mem_drop hmem)

/-- A hushed stage that lacks input is the hunt, and there is no input. -/
theorem Hushed.of_short (h : stage.Hushed framing input) (hshort : stage.Short input) :
    stage = .sync0 ∧ input = [] := by
  have henough := h.enough
  cases stage with
  | sync0 => exact ⟨rfl, hshort⟩
  | sync1 | header =>
      obtain rfl : input = [] := hshort
      exact absurd henough (Nat.not_succ_le_zero _)
  | data length =>
      have hless : input.length < length.toNat := hshort
      have : length.toNat + framing.trailerLength ≤ input.length := henough
      omega
  | trailer length =>
      have hless : input.length < 2 := hshort
      exact absurd henough (Nat.not_le.mpr hless)

end Stage

namespace Framing

variable {framing : Framing} {stage : Stage} {frame input : Bytes}

open Stage (Hushed)

/-- A hushed hunt stays one. -/
theorem hunt_hushed {byte : UInt8} {rest : Bytes} (h : framing.mark.1 ∉ byte :: rest) :
    Hushed framing .sync0 rest :=
  ⟨Nat.zero_le _, fun hmem => h (List.mem_cons_of_mem byte hmem)⟩

/-- A move leaves a hushed stage hushed. -/
theorem step_hushed (hcollected : stage.Collected framing frame) (h : Hushed framing stage input)
    (hmove : ¬ (framing.step stage frame input).Stays stage) :
    let move := framing.step stage frame input
    Hushed framing move.next (input.drop move.consumed) := by
  rw [step_stays_iff] at hmove
  obtain ⟨henough, hquiet⟩ := h
  cases stage with
  | sync0 =>
      obtain ⟨byte, rest, rfl⟩ := List.exists_cons_of_ne_nil hmove
      have hbyte : byte ≠ framing.mark.1 := fun heq => hquiet (heq ▸ List.mem_cons_self)
      simp only [step, stepHeader, if_neg hbyte]
      exact hunt_hushed hquiet
  | sync1 =>
      obtain ⟨byte, rest, rfl⟩ := List.exists_cons_of_ne_nil hmove
      have hbyte : byte ≠ framing.mark.1 := fun heq => hquiet (heq ▸ List.mem_cons_self)
      simp only [step, stepHeader, if_neg hbyte]
      split
      case isTrue =>
        exact ⟨Nat.le_of_succ_le_succ henough, fun hmem => hquiet (List.mem_cons_of_mem byte hmem)⟩
      case isFalse => exact hunt_hushed hquiet
  | header =>
      obtain ⟨byte, rest, rfl⟩ := List.exists_cons_of_ne_nil hmove
      simp only [step, stepHeader]
      split
      case isTrue => exact hunt_hushed hquiet
      case isFalse hover =>
        have hlimit : byte.toNat ≤ framing.limit := Nat.not_lt.mp hover
        refine ⟨?_, fun hmem => hquiet (List.mem_cons_of_mem byte (List.mem_of_mem_drop hmem))⟩
        have : framing.limit + framing.trailerLength + 1 ≤ rest.length + 1 := henough
        show byte.toNat + framing.trailerLength ≤ rest.length
        omega
  | data length =>
      have hlong : ¬ input.length < length.toNat := hmove
      have hall : length.toNat + framing.trailerLength ≤ input.length := henough
      have hbehind : framing.mark.1 ∉
          (input.drop length.toNat).drop framing.trailerLength := by
        rw [List.drop_drop]
        exact hquiet
      simp only [step, stepData, if_neg hlong]
      cases framing with
      | serial limit =>
          refine ⟨?_, hbehind⟩
          rw [List.length_drop]
          exact Nat.le_sub_of_add_le' hall
      | relay => exact ⟨Nat.zero_le _, hbehind⟩
  | trailer length =>
      cases input with
      | nil => exact absurd Nat.two_pos hmove
      | cons high rest =>
          cases rest with
          | nil => exact absurd Nat.one_lt_two hmove
          | cons low rest =>
              simp only [step, stepTrailer]
              split <;> exact ⟨Nat.zero_le _, hquiet⟩

end Framing

namespace Deframer

variable {d : Deframer} {framing : Framing}

/-- A hushed deframer ends hunting, and has taken all input. -/
theorem run_of_hushed (hsized : d.framing.Sized) (hplaced : d.Placed)
    (h : d.stage.Hushed d.framing d.buffered) :
    d.run.1.stage = .sync0 ∧ d.run.1.buffered = [] := by
  induction d using run_induction with
  | settled d hsettled =>
      rw [run_of_settled hsettled]
      exact h.of_short (settled_iff.mp hsettled)
  | move d hmove ih =>
      have hnext := Framing.step_hushed hplaced h hmove
      obtain ⟨hbuffered, hstage⟩ := d.apply_fst d.move
      have hframing := framing_apply d d.move
      rw [run_of_not_settled hmove]
      refine ih ?_ (hplaced.apply hsized).1 ?_
      · rw [hframing]
        exact hsized
      · rw [hframing, hstage, hbuffered]
        exact hnext

/-! ## The counts do not matter -/

/-- Counters do not matter to a move. -/
theorem apply_with_tally (d : Deframer) (tally : Tally) (move : Move) :
    ∃ counted, ({ d with tally } : Deframer).apply move =
      ({ (d.apply move).1 with tally := counted }, (d.apply move).2) := by
  unfold apply
  cases move.outcome with
  | pending => exact ⟨tally, rfl⟩
  | rejected error => exact ⟨tally.countDrop error, rfl⟩
  | complete =>
      simp only [close]
      split
      case h_1 => exact ⟨{ tally with frames := tally.frames + 1 }, rfl⟩
      case h_2 error _ => exact ⟨tally.countDrop error, rfl⟩

/-- What was counted before a run shows in nothing but the counts. -/
theorem run_with_tally (d : Deframer) (tally : Tally) :
    ∃ counted, ({ d with tally } : Deframer).run =
      ({ d.run.1 with tally := counted }, d.run.2) := by
  induction d using run_induction generalizing tally with
  | settled d h =>
      have hsame : ({ d with tally } : Deframer).Settled := h
      rw [run_of_settled h, run_of_settled hsame]
      exact ⟨tally, rfl⟩
  | move d h ih =>
      have hsame : ¬ ({ d with tally } : Deframer).Settled := h
      obtain ⟨between, happly⟩ := d.apply_with_tally tally d.move
      obtain ⟨counted, hrun⟩ := ih between
      refine ⟨counted, ?_⟩
      rw [run_of_not_settled h, run_of_not_settled hsame]
      show ((({ d with tally } : Deframer).apply d.move).1.run.1,
        (({ d with tally } : Deframer).apply d.move).2 ++ _) = _
      rw [show ({ d with tally } : Deframer).move = d.move from rfl, happly, hrun]

/-- A deframer that hunts with nothing collected gives what a new one gives. -/
theorem push_hunting (framing : Framing) (tally : Tally) (data : Bytes) :
    ((hunting framing tally []).push data).2 = ((new framing).push data).2 := by
  obtain ⟨counted, hrun⟩ := run_with_tally ((new framing).feed data)
    { tally with bytes := tally.bytes + data.length }
  show ({ (new framing).feed data with
    tally := { tally with bytes := tally.bytes + data.length } } : Deframer).run.2 = _
  rw [hrun]
  rfl

/-- A new deframer gives the payload of a whole frame, and drops nothing. -/
theorem push_whole_frame {framing : Framing} {bytes payload : Bytes} (hsized : framing.Sized)
    (h : framing.payload bytes = .ok payload) :
    ((new framing).push bytes).2 = ⟨[payload], []⟩ := by
  cases framing with
  | serial limit =>
      rw [Framing.payload] at h
      obtain ⟨frame, hparse, h⟩ := bind_eq_ok.mp h
      obtain ⟨carried, hfits, h⟩ := bind_eq_ok.mp h
      obtain ⟨hpayload, hle⟩ := SerialFrame.ofPayload_eq_ok_iff.mp hfits
      obtain rfl : carried.payload = payload := Except.ok.inj h
      have hlimit : ∀ other ∈ [frame], other.payload.length ≤ limit :=
        List.forall_mem_singleton.mpr (Nat.le_trans hle (Nat.min_le_left _ _))
      have hgiven := (push_frames hsized hlimit).1
      rw [SerialFrame.parse_eq_ok_iff.mp hparse, hpayload]
      simpa using hgiven
  | relay =>
      rw [Framing.relay_payload, RelayFrame.payloadOf, map_eq_ok] at h
      obtain ⟨frame, hparse, rfl⟩ := h
      have hgiven := push_carriers [frame]
      rw [RelayFrame.parse_eq_ok_iff.mp hparse]
      simpa using hgiven

/-- A deframer that hunts with nothing collected and no input kept differs from a new one in its
counts. -/
theorem eq_hunting {d : Deframer} (hstage : d.stage = .sync0) (hframe : d.frame = [])
    (hbuffered : d.buffered = []) : d = hunting d.framing d.tally [] := by
  cases d
  simp_all [hunting]

/-- After a silence every deframer hunts, with nothing collected and no input kept, whatever it was
fed with before. A silence is four bytes more than the longest payload without `AB`, or 257 bytes
without `22` where relay frames are received. From there on the deframer gives what a new one gives,
so the payload of every whole frame that comes next. -/
theorem Reachable.hunts_after_silence {framing : Framing} {d : Deframer} (hsized : framing.Sized)
    (h : Reachable framing d) {quiet : Bytes} (hlong : framing.silence ≤ quiet.length)
    (hquiet : framing.mark.1 ∉ quiet) :
    let e := (d.push quiet).1
    e.stage = .sync0 ∧ e.frame = [] ∧ e.buffered = [] ∧
    (∀ data, (e.push data).2 = ((Deframer.new framing).push data).2) ∧
    ∀ bytes payload, framing.payload bytes = .ok payload → (e.push bytes).2 = ⟨[payload], []⟩ := by
  intro e
  obtain ⟨hplaced, rfl⟩ := h.placed hsized
  have hhushed : d.stage.Hushed d.framing (d.buffered ++ quiet) :=
    Stage.Short.hushed hplaced (settled_iff.mp h.settled) hlong hquiet
  obtain ⟨hstage, hbuffered⟩ := run_of_hushed (d := d.feed quiet) hsized hplaced hhushed
  obtain ⟨hframe, hframing⟩ := Placed.run (d := d.feed quiet) hsized hplaced
  rw [Placed, hstage] at hframe
  have hsame : e.framing = d.framing := hframing
  have hnew (data : Bytes) : (e.push data).2 = ((Deframer.new d.framing).push data).2 := by
    rw [eq_hunting (d := e) hstage hframe hbuffered, push_hunting, hsame]
  refine ⟨hstage, hframe, hbuffered, hnew, fun bytes payload hwhole => ?_⟩
  rw [hnew, push_whole_frame hsized hwhole]

/-- The longest wait: the first byte of a mark was the last byte before the silence, which begins
with the second one and the highest length. -/
theorem hunts_after_longest_wait :
    let d := ((new .direct).push [0xAB]).1
    let quiet := 0xCD :: 0xED :: List.replicate 239 0x00
    let e := (d.push quiet).1
    Framing.direct.Sized ∧ Reachable .direct d ∧ d.stage = .sync1 ∧
      Framing.direct.silence = quiet.length ∧ Framing.direct.mark.1 ∉ quiet ∧
      e.stage = .sync0 ∧ (e.push [0xAB, 0xCD, 0x00, 0xFF, 0xFF]).2.frames = [[]] := by
  intro d quiet e
  have hsized : Framing.direct.Sized := LinkKind.serial.framing_sized
  have hreached : Reachable .direct d := .push _ .new
  have hlength : Framing.direct.silence = quiet.length := by decide +kernel
  have hquiet : Framing.direct.mark.1 ∉ quiet := by decide +kernel
  have hwhole : Framing.direct.payload [0xAB, 0xCD, 0x00, 0xFF, 0xFF] = .ok [] := by decide
  obtain ⟨hstage, -, -, -, hnext⟩ :=
    Reachable.hunts_after_silence hsized hreached (Nat.le_of_eq hlength) hquiet
  refine ⟨hsized, hreached, by decide +kernel, hlength, hquiet, hstage, ?_⟩
  rw [hnext _ _ hwhole]

/-- One byte less is not enough. -/
example :
    let d := ((new .direct).push [0xAB]).1
    (d.push (0xCD :: 0xED :: List.replicate 238 0x00)).1.stage = .trailer 0xED := by
  decide +kernel

end Deframer

end GroundLink
