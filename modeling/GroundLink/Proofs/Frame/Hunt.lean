import GroundLink.Proofs.Frame.Chunking
import GroundLink.Proofs.Frame.Window

/-!
# From mark to mark

One run of a deframer, followed from a hunt for a mark to the next. Hunting ends where `afterMark?`
says (`hunts_mark`). Behind a mark the deframer drops an oversized length
(`marked_judges_oversized`), waits for a frame that is not complete (`loading_runs_dry`), or judges
the window that the frame makes (`loading_judges`), and then hunts on.
-/

namespace GroundLink

open Scan

/-- One more frame judged: given, or dropped. -/
def Tally.count (t : Tally) : Except WireError Bytes → Tally
  | .ok _ => { t with frames := t.frames + 1 }
  | .error error => t.countDrop error

namespace Deframer

/-! ## Single moves -/

variable {d : Deframer} {next : Stage} {consumed : Nat} {frame : Bytes}

/-- A deframer after a move has taken its input, before the frame is settled. -/
def advance (d : Deframer) (next : Stage) (consumed : Nat) (frame : Bytes) : Deframer :=
  { d with stage := next, buffered := d.buffered.drop consumed, frame := frame }

/-- The run of a deframer is that of another, which has given and counted no more. -/
structure LeadsTo (d next : Deframer) : Prop where
  run : d.run = next.run
  framing : d.framing = next.framing
  tally : d.tally = next.tally

/-- A move that settles nothing only leads on. -/
theorem leads_to_of_pending (hmove : d.move = ⟨next, consumed, .pending, frame⟩)
    (hgo : consumed ≠ 0 ∨ next ≠ d.stage) : d.LeadsTo (d.advance next consumed frame) := by
  have hd : ¬ d.Settled := by
    rw [Settled, hmove]
    rintro ⟨_, hconsumed, hnext⟩
    exact hgo.elim (fun h => h hconsumed) (fun h => h hnext)
  refine ⟨?_, rfl, rfl⟩
  rw [run_of_not_settled hd, hmove]
  rfl

/-! ## Hunting for a mark -/

/-- A deframer with nothing collected. -/
def hunting (framing : Framing) (tally : Tally) (stream : Bytes) : Deframer :=
  ⟨framing, .sync0, stream, [], tally⟩

/-- A deframer that has collected the first byte of a mark. -/
def halfMarked (framing : Framing) (tally : Tally) (stream : Bytes) : Deframer :=
  ⟨framing, .sync1, stream, [framing.mark.1], tally⟩

/-- A deframer that has collected a mark. -/
def marked (framing : Framing) (tally : Tally) (stream : Bytes) : Deframer :=
  ⟨framing, .header, stream, [framing.mark.1, framing.mark.2], tally⟩

/-- A deframer that has collected a mark and the length byte. -/
def loading (framing : Framing) (tally : Tally) (length : UInt8) (stream : Bytes) : Deframer :=
  ⟨framing, .data length, stream, [framing.mark.1, framing.mark.2, length], tally⟩

/-- A run gives nothing and counts nothing. -/
def RunsDry (d : Deframer) : Prop :=
  ∃ last : Deframer, d.run = (last, .none) ∧ last.tally = d.tally

/-- A settled deframer gives nothing until there is more input. -/
theorem runs_dry_of_settled (h : d.Settled) : d.RunsDry :=
  ⟨d, run_of_settled h, rfl⟩

/-- What leads to a deframer that runs dry runs dry. -/
theorem LeadsTo.runs_dry {first second : Deframer} (h : first.LeadsTo second)
    (hsecond : second.RunsDry) : first.RunsDry := by
  simpa only [RunsDry, h.run, h.tally] using hsecond

/-- A run gives the payload of a frame or drops it, as it was judged, and goes on hunting. -/
def Judges (d : Deframer) (judged : Except WireError Bytes) (rest : Bytes) : Prop :=
  ∃ drops,
    let next := hunting d.framing (d.tally.count judged) rest
    d.run = (next.run.1, ⟨judged.toOption.toList, drops⟩ ++ next.run.2)

/-- What leads to a judgement judges so. -/
theorem LeadsTo.judges {first second : Deframer} {judged : Except WireError Bytes}
    {rest : Bytes} (h : first.LeadsTo second) (hsecond : second.Judges judged rest) :
    first.Judges judged rest := by
  simpa only [Judges, h.run, h.framing, h.tally] using hsecond

/-- A whole frame is judged by its payload. -/
theorem judges_of_complete (hmove : d.move = ⟨.sync0, consumed, .complete, frame⟩) :
    d.Judges (d.framing.payload frame) (d.buffered.drop consumed) := by
  have hd : ¬ d.Settled := by
    rw [Settled, hmove]
    rintro ⟨⟨⟩, _⟩
  have hrun := run_of_not_settled hd
  simp only [hmove, apply, close] at hrun
  rw [Judges, hrun]
  cases d.framing.payload frame with
  | ok payload => exact ⟨[], rfl⟩
  | error error => exact ⟨_, rfl⟩

/-- A move that rejects a frame is a judgement. -/
theorem judges_of_rejected {error : WireError}
    (hmove : d.move = ⟨.sync0, consumed, .rejected error, frame⟩) :
    d.Judges (.error error) (d.buffered.drop consumed) := by
  have hd : ¬ d.Settled := by
    rw [Settled, hmove]
    rintro ⟨⟨⟩, _⟩
  rw [Judges, run_of_not_settled hd, hmove]
  exact ⟨_, rfl⟩

/-- The run of a hunting deframer, when `found` is what lies behind the first mark. -/
def Hunts (d : Deframer) : Option Bytes → Prop
  | some rest => d.run = (marked d.framing d.tally rest).run
  | none => d.RunsDry

/-- What leads to a find hunts it down. -/
theorem LeadsTo.hunts {first second : Deframer} {found : Option Bytes}
    (h : first.LeadsTo second) (hsecond : second.Hunts found) : first.Hunts found := by
  cases found with
  | none => exact h.runs_dry hsecond
  | some rest => simpa only [Hunts, h.run, h.framing, h.tally] using hsecond

variable (framing : Framing) (tally : Tally)

section Bytewise

variable {byte : UInt8} (stream : Bytes)

/-- The first byte of a mark is half the mark. -/
theorem hunting_first :
    (hunting framing tally (framing.mark.1 :: stream)).LeadsTo
      (halfMarked framing tally stream) := by
  refine leads_to_of_pending (d := hunting framing tally _) ?_ (.inl Nat.one_ne_zero)
  simp [move, hunting, Framing.step, Framing.stepHeader]

/-- Any other byte is passed over. -/
theorem hunting_other (h : byte ≠ framing.mark.1) :
    (hunting framing tally (byte :: stream)).LeadsTo (hunting framing tally stream) := by
  refine leads_to_of_pending (d := hunting framing tally _) ?_ (.inl Nat.one_ne_zero)
  simp [move, hunting, Framing.step, Framing.stepHeader, h]

/-- The second byte of a mark completes it. -/
theorem half_marked_second :
    (halfMarked framing tally (framing.mark.2 :: stream)).LeadsTo
      (marked framing tally stream) := by
  refine leads_to_of_pending (d := halfMarked framing tally _) ?_ (.inl Nat.one_ne_zero)
  simp [move, halfMarked, Framing.step, Framing.stepHeader]

/-- A repeated first byte may still be that of a mark. -/
theorem half_marked_first :
    (halfMarked framing tally (framing.mark.1 :: stream)).LeadsTo
      (halfMarked framing tally stream) := by
  refine leads_to_of_pending (d := halfMarked framing tally _) ?_ (.inl Nat.one_ne_zero)
  simp [move, halfMarked, Framing.step, Framing.stepHeader, framing.mark_ne]

/-- A byte of neither kind starts the hunt again. -/
theorem half_marked_other (hfirst : byte ≠ framing.mark.1) (hsecond : byte ≠ framing.mark.2) :
    (halfMarked framing tally (byte :: stream)).LeadsTo (hunting framing tally stream) := by
  refine leads_to_of_pending (d := halfMarked framing tally _) ?_ (.inl Nat.one_ne_zero)
  simp [move, halfMarked, Framing.step, Framing.stepHeader, hfirst, hsecond]

end Bytewise

/-- Hunting ends behind the first mark. After the first byte of a mark, the hunt is that of a
stream which starts with this byte. -/
theorem hunts_mark (stream : Bytes) :
    (hunting framing tally stream).Hunts (afterMark? framing.mark stream) ∧
      (halfMarked framing tally stream).Hunts
        (afterMark? framing.mark (framing.mark.1 :: stream)) := by
  induction stream with
  | nil => exact ⟨runs_dry_of_settled ⟨rfl, rfl, rfl⟩, runs_dry_of_settled ⟨rfl, rfl, rfl⟩⟩
  | cons byte stream ih =>
      obtain ⟨hhunting, hhalf⟩ := ih
      by_cases hfirst : byte = framing.mark.1
      · subst hfirst
        -- after a repeated first byte the hunt is where it was after the one before
        rw [after_mark_half framing.mark_ne]
        exact ⟨(hunting_first framing tally stream).hunts hhalf,
          (half_marked_first framing tally stream).hunts hhalf⟩
      · rw [after_mark_skip hfirst]
        refine ⟨(hunting_other framing tally stream hfirst).hunts hhunting, ?_⟩
        by_cases hsecond : byte = framing.mark.2
        · subst hsecond
          rw [after_mark_here]
          exact (half_marked_second framing tally stream).run
        · rw [after_mark_half hsecond, after_mark_skip hfirst]
          exact (half_marked_other framing tally stream hfirst hsecond).hunts hhunting

variable {framing tally} {stream : Bytes}

/-- Where a mark follows it is found. -/
theorem hunting_leads_to_marked {rest : Bytes} (h : afterMark? framing.mark stream = some rest) :
    (hunting framing tally stream).LeadsTo (marked framing tally rest) := by
  have hhunts := (hunts_mark framing tally stream).1
  rw [h] at hhunts
  exact ⟨hhunts, rfl, rfl⟩

/-- Where none follows all is passed over. -/
theorem hunting_runs_dry (h : afterMark? framing.mark stream = none) :
    (hunting framing tally stream).RunsDry := by
  have hhunts := (hunts_mark framing tally stream).1
  rw [h] at hhunts
  exact hhunts

/-! ## Behind a mark -/

variable {length : UInt8}

/-- A length byte within the limit is collected. -/
theorem marked_leads_to_loading (h : length.toNat ≤ framing.limit) (rest : Bytes) :
    (marked framing tally (length :: rest)).LeadsTo (loading framing tally length rest) := by
  refine leads_to_of_pending (d := marked framing tally _) ?_ (.inl Nat.one_ne_zero)
  simp [move, marked, Framing.step, Framing.stepHeader, Nat.not_lt.mpr h]

/-- A length byte above the limit is dropped with the mark. -/
theorem marked_judges_oversized (h : framing.limit < length.toNat) (rest : Bytes) :
    (marked framing tally (length :: rest)).Judges (framing.judge (.oversized length)) rest := by
  have hmove : (marked framing tally (length :: rest)).move =
      ⟨.sync0, 1, .rejected (.payloadTooLong framing.limit length.toNat),
        [framing.mark.1, framing.mark.2]⟩ := by
    simp [move, marked, Framing.step, Framing.stepHeader, h]
  exact judges_of_rejected hmove

/-- A deframer that has collected all of a serial frame but its checksum. -/
def checking (limit : Nat) (tally : Tally) (length : UInt8) (body stream : Bytes) : Deframer :=
  ⟨.serial limit, .trailer length, stream,
    SerialFrame.mark.1 :: SerialFrame.mark.2 :: length :: body, tally⟩

/-- All of the payload is taken at once; serial frames then wait for their checksum. -/
theorem move_loading {body : Bytes} (hbody : body.length = length.toNat) (rest : Bytes) :
    (loading framing tally length (body ++ rest)).move =
      let frame := framing.mark.1 :: framing.mark.2 :: length :: body
      if framing.isChecked then ⟨.trailer length, length.toNat, .pending, frame⟩
      else ⟨.sync0, length.toNat, .complete, frame⟩ := by
  have hlen : ¬ body.length + rest.length < body.length := by omega
  simp [move, loading, Framing.step, Framing.stepData, hlen, ← hbody]

/-- A payload that is there is collected for the check. -/
theorem loading_leads_to_checking {limit : Nat} {body : Bytes}
    (hbody : body.length = length.toNat) (rest : Bytes) :
    (loading (.serial limit) tally length (body ++ rest)).LeadsTo
      (checking limit tally length body rest) := by
  have hgo : Stage.trailer length ≠ .data length := by simp
  have hmove : (loading (.serial limit) tally length (body ++ rest)).move =
      ⟨.trailer length, length.toNat, .pending,
        SerialFrame.mark.1 :: SerialFrame.mark.2 :: length :: body⟩ :=
    move_loading hbody rest
  have hleads := leads_to_of_pending hmove (.inr hgo)
  simpa [advance, loading, checking, Framing.mark, ← hbody] using hleads

/-- A deframer waits for a frame that is not complete. -/
theorem loading_runs_dry {rest : Bytes}
    (hshort : rest.length < length.toNat + framing.trailerLength) :
    (loading framing tally length rest).RunsDry := by
  by_cases hdata : rest.length < length.toNat
  · apply runs_dry_of_settled
    simp [Settled, Move.Stays, move, loading, Framing.step, Framing.stepData, hdata]
  · cases framing with
    | relay => exact absurd hshort hdata
    | serial limit =>
        -- the body is there, so it is taken, and the wait is for the checksum
        have hbody : (rest.take length.toNat).length = length.toNat := by
          rw [List.length_take]
          omega
        have htail : (rest.drop length.toNat).length < 2 := by
          rw [List.length_drop]
          simp only [Framing.trailerLength] at hshort
          omega
        have hsettled : (checking limit tally length (rest.take length.toNat)
            (rest.drop length.toNat)).Settled := by
          rcases hrest : rest.drop length.toNat with _ | ⟨high, _ | ⟨low, tail⟩⟩
          · exact ⟨rfl, rfl, rfl⟩
          · exact ⟨rfl, rfl, rfl⟩
          · rw [hrest, List.length_cons, List.length_cons] at htail
            omega
        rw [← List.take_append_drop length.toNat rest]
        exact (loading_leads_to_checking hbody _).runs_dry (runs_dry_of_settled hsettled)

/-- A serial frame is judged once its checksum is there. -/
theorem checking_judges {limit : Nat} {body : Bytes} (hbody : body.length = length.toNat)
    (high low : UInt8) (rest : Bytes) :
    (checking limit tally length body (high :: low :: rest)).Judges
      ((Framing.serial limit).payload
        (SerialFrame.mark.1 :: SerialFrame.mark.2 :: length :: (body ++ [high, low]))) rest := by
  by_cases hsum : Checksum.ofBytes body = Bytes.toUInt16 [high, low]
  · have hmove : (checking limit tally length body (high :: low :: rest)).move =
        ⟨.sync0, 2, .complete,
          SerialFrame.mark.1 :: SerialFrame.mark.2 :: length :: (body ++ [high, low])⟩ := by
      simp [move, checking, Framing.step, Framing.stepTrailer, ← hbody, hsum]
    exact judges_of_complete hmove
  · -- the checksum is compared before the frame is whole, and a window is judged no differently
    have herror : (Framing.serial limit).payload
        (SerialFrame.mark.1 :: SerialFrame.mark.2 :: length :: (body ++ [high, low])) =
          .error (.checksumMismatch (Checksum.ofBytes body) (Bytes.toUInt16 [high, low])) := by
      simp only [Framing.payload, SerialFrame.parse_window hbody, hsum, if_false]
      rfl
    have hmove : (checking limit tally length body (high :: low :: rest)).move =
        ⟨.sync0, 2, .rejected
            (.checksumMismatch (Checksum.ofBytes body) (Bytes.toUInt16 [high, low])),
          SerialFrame.mark.1 :: SerialFrame.mark.2 :: length :: body⟩ := by
      simp [move, checking, Framing.step, Framing.stepTrailer, ← hbody, hsum]
    rw [herror]
    exact judges_of_rejected hmove

/-- A deframer judges a complete frame by its window. -/
theorem loading_judges {body tail : Bytes} (hbody : body.length = length.toNat)
    (htail : tail.length = framing.trailerLength) (rest : Bytes) :
    (loading framing tally length (body ++ tail ++ rest)).Judges
      (framing.judge (.window (framing.mark.1 :: framing.mark.2 :: length :: (body ++ tail))))
      rest := by
  cases framing with
  | relay =>
      obtain rfl : tail = [] := List.eq_nil_of_length_eq_zero htail
      have hmove : (loading .relay tally length (body ++ rest)).move =
          ⟨.sync0, length.toNat, .complete,
            RelayFrame.mark.1 :: RelayFrame.mark.2 :: length :: body⟩ :=
        move_loading hbody rest
      have hjudges : (loading .relay tally length (body ++ rest)).Judges
          (Framing.relay.payload (RelayFrame.mark.1 :: RelayFrame.mark.2 :: length :: body))
          ((body ++ rest).drop length.toNat) :=
        judges_of_complete hmove
      rw [← hbody, List.drop_left] at hjudges
      rw [List.append_nil]
      exact hjudges
  | serial limit =>
      match tail, htail with
      | [high, low], _ =>
          rw [List.append_assoc]
          exact (loading_leads_to_checking hbody _).judges (checking_judges hbody high low rest)

end Deframer

end GroundLink
