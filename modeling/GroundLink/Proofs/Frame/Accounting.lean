import GroundLink.Proofs.Frame.Collected
import GroundLink.Proofs.Frame.Image

/-!
# Where the bytes of a stream go

A deframer may be fed and reset in any order (`performAll`). What it has counted is what it gave and
dropped (`Tally.credit`), and no byte is counted twice: the bytes of the frames that were given, the
least that a dropped frame took, the frame in progress and the input that is kept are together no
more than what was fed. Read `step_weight` first, which says so of one move; `reserves_run` carries
it through a run, and a reset only gives bytes up. `counts_its_traffic` puts both together.
-/

namespace GroundLink

/-- Whether a frame was dropped for its checksum. -/
def WireError.isChecksum : WireError → Bool
  | checksumMismatch .. => true
  | tooShort .. | badSync .. | payloadTooLong .. | lengthMismatch .. | unknownType _
  | emptyPayload => false

/-- The least bytes of the stream that a dropped frame has taken: mark, length and checksum, or mark
and length. -/
def WireError.weight : WireError → Nat
  | checksumMismatch .. => 5
  | tooShort .. | badSync .. | payloadTooLong .. | lengthMismatch .. | unknownType _
  | emptyPayload => 3

namespace Tally

/-- What was given and dropped is counted. -/
def credit (t : Tally) (received : Received) : Tally :=
  { t with
    frames := t.frames + received.frames.length
    checksumErrors := t.checksumErrors + received.drops.countP (·.error.isChecksum)
    otherErrors := t.otherErrors + received.drops.countP (!·.error.isChecksum) }

/-- What is received in two parts is credited part by part. -/
theorem credit_append (t : Tally) (first second : Received) :
    t.credit (first ++ second) = (t.credit first).credit second := by
  simp only [credit, Received.frames_append, Received.drops_append, List.length_append,
    List.countP_append, Nat.add_assoc]

/-- To count a drop is to credit it. -/
theorem countDrop_eq_credit (t : Tally) (drop : Drop) :
    t.countDrop drop.error = t.credit ⟨[], [drop]⟩ := by
  obtain ⟨framing, error, collected⟩ := drop
  cases error <;> rfl

/-- The bytes of the stream that the counted frames have taken, without their payloads. -/
def taken (t : Tally) : Nat :=
  5 * t.frames + 5 * t.checksumErrors + 3 * t.otherErrors

/-- A drop takes the bytes that its cause weighs. -/
theorem taken_countDrop (t : Tally) (error : WireError) :
    (t.countDrop error).taken = t.taken + error.weight := by
  cases error <;> simp only [countDrop, taken, WireError.weight] <;> omega

end Tally

/-! ## One move -/

/-- The bytes that a frame in progress or a complete frame has, or the least that a dropped frame
has taken. -/
def Move.weight (move : Move) : Nat :=
  match move.outcome with
  | .pending | .complete => move.frame.length
  | .rejected error => error.weight

/-- A move makes a frame of bytes that it had or takes. -/
theorem Framing.step_weight {framing : Framing} {stage : Stage} {frame : Bytes}
    (h : stage.Collected framing frame) (input : Bytes) :
    (framing.step stage frame input).weight ≤
      frame.length + (framing.step stage frame input).consumed := by
  cases stage with
  | sync0 =>
      cases input with
      | nil => exact Nat.le_refl _
      | cons byte rest =>
          simp only [step, stepHeader]
          split <;> simp [Move.weight]
  | sync1 =>
      cases input with
      | nil => exact Nat.le_refl _
      | cons byte rest =>
          simp only [step, stepHeader]
          split
          case isTrue => simp [Move.weight]
          case isFalse => split <;> simp [Move.weight]
  | header =>
      obtain rfl : frame = [framing.mark.1, framing.mark.2] := h
      cases input with
      | nil => exact Nat.le_refl _
      | cons byte rest =>
          simp only [step, stepHeader]
          split <;> simp [Move.weight, WireError.weight]
  | data length =>
      simp only [step, stepData]
      split
      case isTrue => exact Nat.le_refl _
      case isFalse =>
        have hbody : (frame ++ input.take length.toNat).length ≤ frame.length + length.toNat := by
          rw [List.length_append]
          exact Nat.add_le_add_left (List.length_take_le _ _) _
        split <;> exact hbody
  | trailer length =>
      have hlength : frame.length = 3 + length.toNat := h.2.1
      cases input with
      | nil => exact Nat.le_refl _
      | cons high rest =>
          cases rest with
          | nil => exact Nat.le_refl _
          | cons low rest =>
              simp only [step, stepTrailer]
              split
              case isTrue =>
                show 5 ≤ frame.length + 2
                omega
              case isFalse => simp [Move.weight]

/-- A serial frame that is given has five bytes beside its payload. -/
theorem Framing.length_of_payload {limit : Nat} {frame payload : Bytes}
    (h : (Framing.serial limit).payload frame = .ok payload) :
    frame.length = payload.length + 5 := by
  rw [Framing.payload] at h
  obtain ⟨read, hparse, h⟩ := bind_eq_ok.mp h
  obtain ⟨carried, hfits, h⟩ := bind_eq_ok.mp h
  obtain rfl : carried.payload = payload := Except.ok.inj h
  rw [SerialFrame.parse_eq_ok_iff.mp hparse, RelayFrame.length_serial_bytes,
    (SerialFrame.ofPayload_eq_ok_iff.mp hfits).1]

namespace Deframer

variable {d : Deframer}

/-! ## What is counted -/

/-- A move credits what it gives. -/
theorem tally_apply (d : Deframer) (move : Move) :
    (d.apply move).1.tally = d.tally.credit (d.apply move).2 := by
  unfold apply
  cases move.outcome with
  | pending => rfl
  | rejected error => exact d.tally.countDrop_eq_credit ⟨d.framing, error, move.frame⟩
  | complete =>
      simp only [close]
      split
      case h_1 => rfl
      case h_2 error _ => exact d.tally.countDrop_eq_credit ⟨d.framing, error, move.frame⟩

/-- A run counts what it gives and drops. -/
theorem tally_run (d : Deframer) : d.run.1.tally = d.tally.credit d.run.2 := by
  induction d using run_induction with
  | settled d h =>
      rw [run_of_settled h]
      rfl
  | move d h ih => rw [run_of_not_settled h, ih, tally_apply, Tally.credit_append]

/-! ## What is taken -/

/-- What a deframer has of the stream, together with what was given of it. -/
def reserves (d : Deframer) (given : Received) : Nat :=
  d.tally.taken + given.frames.flatten.length + d.frame.length + d.buffered.length

/-- A move does not multiply bytes. -/
theorem reserves_apply {limit : Nat} (hframing : d.framing = .serial limit)
    (hsized : d.framing.Sized) (h : d.Placed) :
    (d.apply d.move).1.reserves (d.apply d.move).2 ≤ d.reserves .none := by
  have hconsumed : d.move.consumed ≤ d.buffered.length :=
    (d.framing.step_progress d.stage d.frame d.buffered).1
  have hweight : d.move.weight ≤ d.frame.length + d.move.consumed :=
    Framing.step_weight h d.buffered
  have hsound : d.move.Sound d.framing d.stage := Framing.step_sound hsized h
  unfold Move.Sound at hsound
  unfold reserves Deframer.apply
  cases houtcome : d.move.outcome with
  | pending =>
      simp only [Move.weight, houtcome] at hweight
      simp only [Received.none, List.flatten_nil, List.length_nil, List.length_drop]
      omega
  | rejected error =>
      simp only [Move.weight, houtcome] at hweight
      simp only [drop, Received.none, Tally.taken_countDrop, List.flatten_nil, List.length_nil,
        List.length_drop]
      omega
  | complete =>
      simp only [Move.weight, houtcome] at hweight
      rw [houtcome] at hsound
      obtain ⟨-, payload, hpayload⟩ := hsound
      have hlength : d.move.frame.length = payload.length + 5 :=
        Framing.length_of_payload (hframing ▸ hpayload)
      simp only [close, hpayload, Tally.taken, Received.none, List.flatten_singleton,
        List.flatten_nil, List.length_nil, List.length_drop]
      omega

/-- Payloads that were given are held in reserve no more. -/
theorem reserves_append (d : Deframer) (first second : Received) :
    d.reserves (first ++ second) = first.frames.flatten.length + d.reserves second := by
  simp only [reserves, Received.frames_append, List.flatten_append, List.length_append]
  omega

/-- A run does not multiply bytes. -/
theorem reserves_run {limit : Nat} (hframing : d.framing = .serial limit)
    (hsized : d.framing.Sized) (h : d.Placed) : d.run.1.reserves d.run.2 ≤ d.reserves .none := by
  induction d using run_induction with
  | settled d hsettled =>
      rw [run_of_settled hsettled]
  | move d hmove ih =>
      have hsame := framing_apply d d.move
      have hnext := ih (hsame.trans hframing) (hsame ▸ hsized) (h.apply hsized).1
      have hone := reserves_apply hframing hsized h
      rw [run_of_not_settled hmove, reserves_append]
      simp only [reserves, Received.none, List.flatten_nil, List.length_nil] at hnext hone ⊢
      omega

end Deframer

/-! ## Feeding and resetting -/

/-- What may be done to a deframer. -/
inductive DeframerCall where
  | push (data : Bytes)
  | reset

/-- What a call feeds. -/
def DeframerCall.data : DeframerCall → Bytes
  | push data => data
  | reset => []

namespace Deframer

/-- Make a call. -/
def perform (d : Deframer) : DeframerCall → Deframer × Received
  | .push data => d.push data
  | .reset => (d.reset, .none)

/-- Make one call after another. -/
def performAll (d : Deframer) : List DeframerCall → Deframer × Received
  | [] => (d, .none)
  | call :: rest =>
    let first := d.perform call
    let last := first.1.performAll rest
    (last.1, first.2 ++ last.2)

variable {d : Deframer}

/-- A call counts its bytes and credits what it gives. -/
theorem tally_perform (d : Deframer) (call : DeframerCall) :
    (d.perform call).1.tally =
      { d.tally with bytes := d.tally.bytes + call.data.length }.credit (d.perform call).2 := by
  cases call with
  | push data => exact tally_run (d.feed data)
  | reset => rfl

/-- A call adds no more bytes than it feeds. -/
theorem reserves_perform {limit : Nat} (hframing : d.framing = .serial limit)
    (hsized : d.framing.Sized) (h : d.Placed) (call : DeframerCall) :
    (d.perform call).1.reserves (d.perform call).2 ≤ d.reserves .none + call.data.length := by
  cases call with
  | push data =>
      refine Nat.le_trans (reserves_run (d := d.feed data) hframing hsized h) (Nat.le_of_eq ?_)
      simp only [reserves, Tally.taken, feed, DeframerCall.data, List.length_append,
        ← Nat.add_assoc]
  | reset =>
      simp only [reserves, perform, reset, DeframerCall.data, Received.none, List.flatten_nil,
        List.length_nil]
      omega

/-- A call leaves a deframer placed, and its framing alone. -/
theorem Placed.perform (hsized : d.framing.Sized) (h : d.Placed) (call : DeframerCall) :
    (d.perform call).1.Placed ∧ (d.perform call).1.framing = d.framing := by
  cases call with
  | push data => exact Placed.run (d := d.feed data) hsized h
  | reset => exact ⟨rfl, rfl⟩

/-- All calls together count what they give and drop, and the bytes that they feed. -/
theorem tally_performAll (d : Deframer) (calls : List DeframerCall) :
    (d.performAll calls).1.tally =
      { d.tally with
        bytes := d.tally.bytes + (calls.flatMap DeframerCall.data).length }.credit
          (d.performAll calls).2 := by
  induction calls generalizing d with
  | nil => rfl
  | cons call rest ih =>
      show ((d.perform call).1.performAll rest).1.tally = _
      rw [ih, tally_perform]
      simp only [performAll, Tally.credit_append, List.flatMap_cons, List.length_append,
        ← Nat.add_assoc]
      rfl

/-- All calls together add no more bytes than they feed. -/
theorem reserves_performAll {limit : Nat} (hframing : d.framing = .serial limit)
    (hsized : d.framing.Sized) (h : d.Placed) (calls : List DeframerCall) :
    (d.performAll calls).1.reserves (d.performAll calls).2 ≤
      d.reserves .none + (calls.flatMap DeframerCall.data).length := by
  induction calls generalizing d with
  | nil => exact Nat.le_refl _
  | cons call rest ih =>
      obtain ⟨hplaced, hsame⟩ := h.perform hsized call
      have hone := reserves_perform hframing hsized h call
      have hrest := ih (hsame.trans hframing) (hsame ▸ hsized) hplaced
      simp only [performAll, reserves_append, List.flatMap_cons, List.length_append]
      simp only [reserves, Received.none, List.flatten_nil, List.length_nil] at hone hrest ⊢
      omega

/-- What a deframer of serial frames has counted is what it was fed with, what it gave and what it
dropped, in whatever order it is fed and reset; a reset changes no count. Every byte is counted once
at most: five bytes and the payload for each frame, five for each frame with a wrong checksum, three
for each other that was dropped, and the input that is kept. -/
theorem counts_its_traffic (kind : LinkKind) (calls : List DeframerCall) :
    let given := (new kind.framing).performAll calls
    let tally := given.1.tally
    tally.bytes = (calls.flatMap DeframerCall.data).length ∧
    tally.frames = given.2.frames.length ∧
    tally.checksumErrors = given.2.drops.countP (·.error.isChecksum) ∧
    tally.otherErrors = given.2.drops.countP (!·.error.isChecksum) ∧
    given.1.reset.tally = tally ∧
    5 * tally.frames + given.2.frames.flatten.length + 5 * tally.checksumErrors +
      3 * tally.otherErrors + given.1.buffered.length ≤ tally.bytes := by
  intro given tally
  have hcounted : tally = { Tally.zero with
      bytes := 0 + (calls.flatMap DeframerCall.data).length }.credit given.2 :=
    tally_performAll _ calls
  have hbytes : tally.bytes = (calls.flatMap DeframerCall.data).length := by
    rw [hcounted]
    exact Nat.zero_add _
  refine ⟨hbytes, ?_, ?_, ?_, rfl, ?_⟩
  · rw [hcounted]
    exact Nat.zero_add _
  · rw [hcounted]
    exact Nat.zero_add _
  · rw [hcounted]
    exact Nat.zero_add _
  · have hnew : (new kind.framing).reserves .none = 0 := rfl
    have hreserves : given.1.reserves given.2 ≤ _ :=
      reserves_performAll (d := new kind.framing) kind.framing_eq kind.framing_sized rfl calls
    rw [hnew, ← hbytes] at hreserves
    simp only [reserves, Tally.taken] at hreserves
    show 5 * given.1.tally.frames + given.2.frames.flatten.length +
      5 * given.1.tally.checksumErrors + 3 * given.1.tally.otherErrors +
        given.1.buffered.length ≤ tally.bytes
    omega

/-- A whole frame, a reset inside a second one, an oversized length, and a frame with a wrong
checksum. Of all bytes only those before the reset are lost. -/
example :
    let given := (new LinkKind.serial.framing).performAll
      [.push [0xAB, 0xCD, 0x00, 0xFF, 0xFF, 0xAB, 0xCD], .reset, .push [0xAB, 0xCD, 0xEE],
        .push [0xAB, 0xCD, 0x00, 0xFF, 0xFE]]
    given.2.frames = [[]] ∧ given.1.tally = ⟨15, 1, 1, 1⟩ := by
  decide +kernel

end Deframer

end GroundLink
