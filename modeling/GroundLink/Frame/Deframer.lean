import GroundLink.Frame.Framing

/-!
# Receiving a stream

A deframer is fed with pieces of a stream and gives the payloads of the frames they complete. It
keeps the input it could not use yet, counts what it saw, and reports each frame it dropped. Moves
are made until one neither takes input nor changes the stage, and `step_progress` says why that
happens: every other move lowers twice the input left plus the rank of the stage.
-/

namespace GroundLink

/-- What a deframer has counted. -/
structure Tally where
  /-- Bytes fed in. -/
  bytes : Nat
  /-- Frames given. -/
  frames : Nat
  /-- Frames dropped for their checksum. -/
  checksumErrors : Nat
  /-- Frames dropped for any other cause. -/
  otherErrors : Nat
deriving DecidableEq, Repr

/-- Nothing counted yet. -/
def Tally.zero : Tally := ⟨0, 0, 0, 0⟩

/-- Frames dropped for any cause. -/
def Tally.errors (t : Tally) : Nat :=
  t.checksumErrors + t.otherErrors

/-- One more frame dropped. -/
def Tally.countDrop (t : Tally) : WireError → Tally
  | .checksumMismatch .. => { t with checksumErrors := t.checksumErrors + 1 }
  | _ => { t with otherErrors := t.otherErrors + 1 }

/-- A frame that was dropped: the framing, the cause, and what had been collected. -/
structure Drop where
  framing : Framing
  error : WireError
  collected : Bytes
deriving DecidableEq, Repr

/-- The warning for a dropped frame. -/
def Drop.text (drop : Drop) : String :=
  let collected := Text.hex drop.collected
  s!"{drop.framing.name} frame dropped: {drop.error.message} (frame so far {collected})"

/-- What a piece of the stream gave: payloads and dropped frames, each in order. -/
structure Received where
  frames : List Bytes
  drops : List Drop
deriving DecidableEq, Repr

namespace Received

/-- Nothing at all. -/
def none : Received := ⟨[], []⟩

/-- One thing received after another. -/
def append (first second : Received) : Received :=
  ⟨first.frames ++ second.frames, first.drops ++ second.drops⟩

instance : Append Received := ⟨append⟩

end Received

/-- The state of a receiver. -/
structure Deframer where
  framing : Framing
  stage : Stage
  /-- Input not taken yet. -/
  buffered : Bytes
  /-- The bytes collected for the frame in progress. -/
  frame : Bytes
  tally : Tally
deriving DecidableEq, Repr

/-- The header moves take at most the byte at hand, and leave the stages of payload and
checksum alone. -/
theorem Framing.stepHeader_progress (framing : Framing) (stage : Stage) (frame : Bytes)
    (byte : UInt8) :
    let move := framing.stepHeader stage frame byte
    move.consumed ≤ 1 ∧
      (2 * (1 - move.consumed) + move.next.rank < 2 + stage.rank ∨
        (move.outcome = .pending ∧ move.consumed = 0 ∧ move.next = stage)) := by
  cases stage <;> simp only [Framing.stepHeader]
  all_goals first
    | (split <;> (try split) <;> simp [Stage.rank])
    | simp

/-- A move takes no more than there is, and unless it takes nothing and stays where it is, it
lowers twice the input left plus the rank of the stage. -/
theorem Framing.step_progress (framing : Framing) (stage : Stage) (frame input : Bytes) :
    let move := framing.step stage frame input
    move.consumed ≤ input.length ∧
      (2 * (input.length - move.consumed) + move.next.rank < 2 * input.length + stage.rank ∨
        (move.outcome = .pending ∧ move.consumed = 0 ∧ move.next = stage)) := by
  have header (stage : Stage) (byte : UInt8) (rest : Bytes) :
      let move := framing.stepHeader stage frame byte
      move.consumed ≤ (byte :: rest).length ∧
        (2 * ((byte :: rest).length - move.consumed) + move.next.rank <
            2 * (byte :: rest).length + stage.rank ∨
          (move.outcome = .pending ∧ move.consumed = 0 ∧ move.next = stage)) := by
    obtain ⟨hle, hlt⟩ := framing.stepHeader_progress stage frame byte
    simp only [List.length_cons]
    refine ⟨by omega, ?_⟩
    rcases hlt with hlt | hlt
    · exact .inl (by omega)
    · exact .inr hlt
  cases stage with
  | data length =>
    simp only [Framing.step, Framing.stepData]
    split
    · simp
    · split <;> simp only [Stage.rank] <;> exact ⟨by omega, .inl (by omega)⟩
  | trailer length =>
    simp only [Framing.step, Framing.stepTrailer]
    split
    · split <;> simp only [Stage.rank, List.length_cons] <;> exact ⟨by omega, .inl (by omega)⟩
    · simp
  | sync0 => cases input with
    | nil => simp [Framing.step]
    | cons byte rest => exact header .sync0 byte rest
  | sync1 => cases input with
    | nil => simp [Framing.step]
    | cons byte rest => exact header .sync1 byte rest
  | header => cases input with
    | nil => simp [Framing.step]
    | cons byte rest => exact header .header byte rest

namespace Deframer

/-- A deframer that has seen nothing. -/
def new (framing : Framing) : Deframer :=
  ⟨framing, .sync0, [], [], .zero⟩

/-- Drop the frame in progress. -/
def drop (d : Deframer) (error : WireError) : Deframer × Received :=
  ({ d with frame := [], tally := d.tally.countDrop error }, ⟨[], [⟨d.framing, error, d.frame⟩]⟩)

/-- Close the frame that has been collected. -/
def close (d : Deframer) : Deframer × Received :=
  match d.framing.payload d.frame with
  | .ok payload =>
    ({ d with frame := [], tally := { d.tally with frames := d.tally.frames + 1 } },
      ⟨[payload], []⟩)
  | .error error => d.drop error

/-- Carry out a move. -/
def apply (d : Deframer) (move : Move) : Deframer × Received :=
  let d := { d with
    stage := move.next, buffered := d.buffered.drop move.consumed, frame := move.frame }
  match move.outcome with
  | .pending => (d, .none)
  | .complete => d.close
  | .rejected error => d.drop error

/-- The move that is due. -/
def move (d : Deframer) : Move :=
  d.framing.step d.stage d.frame d.buffered

/-- Whether a move neither takes input nor changes the stage. -/
def isStalled (d : Deframer) (move : Move) : Bool :=
  move.outcome = .pending && move.consumed = 0 && move.next = d.stage

/-- Carrying out a move only changes the input left and the stage as the move says. -/
theorem apply_fst (d : Deframer) (move : Move) :
    (d.apply move).1.buffered = d.buffered.drop move.consumed ∧
      (d.apply move).1.stage = move.next := by
  unfold apply
  cases move.outcome with
  | pending => exact ⟨rfl, rfl⟩
  | rejected error => exact ⟨rfl, rfl⟩
  | complete =>
    simp only [close]
    split <;> exact ⟨rfl, rfl⟩

/-- Make moves as long as they get anywhere. -/
def run (d : Deframer) : Deframer × Received :=
  let move := d.move
  if h : d.isStalled move then (d, .none)
  else
    let next := d.apply move
    have : 2 * next.1.buffered.length + next.1.stage.rank <
        2 * d.buffered.length + d.stage.rank := by
      obtain ⟨_, progress⟩ := d.framing.step_progress d.stage d.frame d.buffered
      obtain ⟨hbuf, hstage⟩ := d.apply_fst move
      simp only [isStalled, Bool.and_eq_true, decide_eq_true_eq, and_assoc] at h
      simp only [next, hbuf, hstage, List.length_drop]
      exact progress.resolve_right h
    let last := run next.1
    (last.1, next.2 ++ last.2)
termination_by 2 * d.buffered.length + d.stage.rank

/-- Feed a piece of the stream. -/
def push (d : Deframer) (data : Bytes) : Deframer × Received :=
  run { d with
    buffered := d.buffered ++ data
    tally := { d.tally with bytes := d.tally.bytes + data.length } }

/-- Feed pieces one after another. -/
def pushAll (d : Deframer) : List Bytes → Deframer × Received
  | [] => (d, .none)
  | piece :: rest =>
    let first := d.push piece
    let last := first.1.pushAll rest
    (last.1, first.2 ++ last.2)

/-- Forget the frame in progress and all input not taken yet. Counts stay. -/
def reset (d : Deframer) : Deframer :=
  { d with stage := .sync0, buffered := [], frame := [] }

end Deframer

end GroundLink
