import GroundLink.Proofs.Link.Correlation

/-!
# Reports that come too early

A scheduled command may run before its acknowledgement has been seen, and then its report comes
before its registration. `race_is_invisible` says that whoever holds the ticket cannot tell: as long
as at most fifteen other reports are kept in between, the answer is that of a report in time.

The late run is followed by `Keeps`: the report stays in the buffer, and only so many stand behind
it. The run in time is followed by `Awaits`: the ticket stays the one that waits under its uuid.
-/

namespace GroundLink

/-- What leaves the commands under a uuid alone. -/
def Operation.Spares (signal : SignalRef) (uuid : UInt32) : Operation → Prop
  | .register other _ => other ≠ uuid
  | .log entry => ∀ report ∈ signal.report? entry, report.header.uuid ≠ uuid
  | .cancelAll => False

instance (signal : SignalRef) (uuid : UInt32) :
    (operation : Operation) → Decidable (operation.Spares signal uuid)
  | .register other _ => inferInstanceAs (Decidable (other ≠ uuid))
  | .log entry =>
    inferInstanceAs (Decidable (∀ report ∈ signal.report? entry, report.header.uuid ≠ uuid))
  | .cancelAll => .isFalse id

namespace Correlator

/-- Whether an operation puts a report into the buffer. -/
def buffers (c : Correlator) : Operation → Bool
  | .log entry =>
    match (c.handleLog entry).2 with
    | .unmatched _ => true
    | _ => false
  | _ => false

/-- How many of the operations put a report into the buffer. -/
def buffered (c : Correlator) : List Operation → Nat
  | [] => 0
  | operation :: rest =>
    (c.buffers operation).toNat + (c.perform operation).buffered rest

variable {c c' : Correlator} {operation : Operation} {report : Report} {slot : Waiting}

/-- The ticket that is answered last has this answer, if it had none before. -/
theorem lookup_concat {answers : List (Nat × Answer)} {number : Nat} (answer : Answer)
    (h : ∀ delivered ∈ answers, delivered.1 ≠ number) :
    (answers ++ [(number, answer)]).lookup number = some answer := by
  have hnone : answers.lookup number = none := by
    rw [List.lookup_eq_none_iff]
    intro delivered hdelivered
    simpa using (h delivered hdelivered).symm
  rw [List.lookup_append, hnone]
  simp

/-! ## A report that waits for its registration -/

/-- Taking out another item than the one that is watched leaves no more items behind it. -/
theorem split_without {α : Type} {item other : α} {before behind front back : List α}
    (h : before ++ item :: behind = front ++ other :: back) (hother : other ≠ item) :
    ∃ before' behind', front ++ back = before' ++ item :: behind' ∧
      behind'.length ≤ behind.length ∧ ∀ a ∈ before' ++ behind', a ∈ before ++ behind := by
  rcases List.append_eq_append_iff.mp h with ⟨gap, hfront, hrest⟩ | ⟨gap, hbefore, hrest⟩
  · -- the other item stands behind
    cases gap with
    | nil =>
        obtain ⟨hsame, -⟩ := List.cons.inj hrest
        exact absurd hsame.symm hother
    | cons first gap =>
        obtain ⟨rfl, rfl⟩ := List.cons.inj hrest
        refine ⟨before, gap ++ back, by rw [hfront, List.append_assoc]; rfl, by simp, ?_⟩
        intro a ha
        simp only [List.mem_append] at ha ⊢
        grind
  · -- the other item stands in front
    cases gap with
    | nil =>
        obtain ⟨hsame, -⟩ := List.cons.inj hrest
        exact absurd hsame hother
    | cons first gap =>
        obtain ⟨rfl, rfl⟩ := List.cons.inj hrest
        refine ⟨front ++ gap, behind, by rw [List.append_assoc]; rfl, Nat.le_refl _, ?_⟩
        intro a ha
        rw [hbefore]
        simp only [List.mem_append, List.mem_cons] at ha ⊢
        grind

/-- A report is kept, alone under its uuid, with at most `count` reports behind it. -/
structure Keeps (report : Report) (count : Nat) (c : Correlator) : Prop where
  sound : c.Sound
  free : c.isPending report.header.uuid = false
  kept : ∃ before behind, c.early = before ++ report :: behind ∧ behind.length ≤ count ∧
    ∀ other ∈ before ++ behind, other.header.uuid ≠ report.header.uuid

/-- A report that is kept behind few is kept behind more. -/
theorem Keeps.mono {count more : Nat} (h : Keeps report count c) (hle : count ≤ more) :
    Keeps report more c := by
  obtain ⟨before, behind, hearly, hcount, hothers⟩ := h.kept
  exact ⟨h.sound, h.free, before, behind, hearly, Nat.le_trans hcount hle, hothers⟩

/-- A report under a uuid that nobody waits for is kept by an operation that puts it there. -/
theorem buffers_of_free {entry : LogEntry} (hreport : c.signal.report? entry = some report)
    (hfree : c.isPending report.header.uuid = false) : c.buffers (.log entry) = true := by
  simp only [buffers, handle_log_of_report hreport, accept_of_free hfree]

/-- While fewer than sixteen reports stand behind it, one more report does not push it out. -/
theorem Keeps.keep {count : Nat} {other : Report} (h : Keeps report count c)
    (hother : other.header.uuid ≠ report.header.uuid) (hfew : count + 1 < earlyLimit) :
    ∃ before behind, (c.keep other).early = before ++ report :: behind ∧
      behind.length ≤ count + 1 ∧
      ∀ a ∈ before ++ behind, a.header.uuid ≠ report.header.uuid := by
  obtain ⟨before, behind, hearly, hcount, hothers⟩ := h.kept
  have hbehind : ∀ a ∈ behind ++ [other], a.header.uuid ≠ report.header.uuid := by
    intro a ha
    rcases List.mem_append.mp ha with ha | ha
    · exact hothers a (List.mem_append_right _ ha)
    · exact List.mem_singleton.mp ha ▸ hother
  rw [early_keep]
  split
  case isTrue hfull =>
    -- a full buffer has a report in front of the one that is watched, and that one is lost
    have hfront : 1 ≤ before.length := by
      rw [hearly, List.length_append, List.length_cons] at hfull
      omega
    refine ⟨before.drop 1, behind ++ [other], ?_, by simpa using hcount, ?_⟩
    · rw [hearly, List.drop_append_of_le_length hfront, List.append_assoc]
      rfl
    · intro a ha
      rcases List.mem_append.mp ha with ha | ha
      · exact hothers a (List.mem_append_left _ (List.mem_of_mem_drop ha))
      · exact hbehind a ha
  case isFalse hroom =>
    refine ⟨before, behind ++ [other], ?_, by simpa using hcount, ?_⟩
    · rw [hearly, List.append_assoc]
      rfl
    · intro a ha
      rcases List.mem_append.mp ha with ha | ha
      · exact hothers a (List.mem_append_left _ ha)
      · exact hbehind a ha

/-- Operations on other uuids leave a kept report where it is, or move it to the front. -/
theorem Keeps.step {count : Nat} (h : Keeps report count c) (hstep : Step c operation c')
    (hspares : operation.Spares c.signal report.header.uuid)
    (hfew : count + (c.buffers operation).toNat < earlyLimit) :
    Keeps report (count + (c.buffers operation).toNat) c' := by
  have hsound := h.sound.step hstep
  have hfree := is_pending_eq_false_iff.mp h.free
  obtain ⟨before, behind, hearly, hcount, hothers⟩ := h.kept
  cases hstep with
  | duplicate | ignored => exact h.mono (Nat.le_add_right _ _)
  | @claimed spec other front back hpending hsplit hfirst =>
      have hdistinct : other ≠ report := fun hsame => hspares (congrArg (·.header.uuid) hsame)
      obtain ⟨before', behind', hrest, hlength, hmem⟩ :=
        split_without (hearly.symm.trans hsplit) hdistinct
      refine ⟨hsound, h.free, before', behind', hrest, ?_, fun a ha => hothers a (hmem a ha)⟩
      exact Nat.le_trans hlength (Nat.le_trans hcount (Nat.le_add_right _ _))
  | @waits uuid spec hpending hnone =>
      refine ⟨hsound, ?_, before, behind, hearly,
        Nat.le_trans hcount (Nat.le_add_right _ _), hothers⟩
      rw [is_pending_eq_false_iff]
      intro slot hslot
      rcases List.mem_append.mp hslot with hslot | hslot
      · exact hfree slot hslot
      · exact List.mem_singleton.mp hslot ▸ hspares
  | @fulfilled entry other slot front back hreport hwaiting huuid =>
      refine ⟨hsound, ?_, before, behind, hearly,
        Nat.le_trans hcount (Nat.le_add_right _ _), hothers⟩
      rw [is_pending_eq_false_iff]
      intro waiting hmem
      refine hfree waiting ?_
      rw [hwaiting]
      exact List.mem_append.mpr ((List.mem_append.mp hmem).imp_right (List.mem_cons_of_mem _))
  | @kept entry other hreport hpending =>
      rw [buffers_of_free hreport hpending] at hfew ⊢
      exact ⟨hsound, h.free, h.keep (hspares other hreport) hfew⟩
  | cancelled => exact absurd hspares id

/-- A report is kept as long as few others come. -/
theorem Keeps.run {count : Nat} (h : Keeps report count c) (operations : List Operation)
    (hspares : ∀ operation ∈ operations, operation.Spares c.signal report.header.uuid)
    (hfew : count + c.buffered operations < earlyLimit) :
    Keeps report (count + c.buffered operations) (c.run operations) := by
  induction operations generalizing c count with
  | nil => exact h
  | cons operation rest ih =>
      obtain ⟨hspare, hspares⟩ := List.forall_mem_cons.mp hspares
      have hstep := c.perform_step operation
      rw [buffered, ← Nat.add_assoc] at hfew ⊢
      refine ih (h.step hstep hspare (by omega)) ?_ hfew
      rw [hstep.signal_eq]
      exact hspares

/-- A report that nobody waits for is kept, as the last one. -/
theorem keeps_of_free {entry : LogEntry} (hsound : c.Sound)
    (hreport : c.signal.report? entry = some report)
    (hfree : c.isPending report.header.uuid = false)
    (hearly : ∀ other ∈ c.early, other.header.uuid ≠ report.header.uuid) :
    Keeps report 0 (c.perform (.log entry)) := by
  have hstep := hsound.step (c.perform_step (.log entry))
  rw [perform_of_free hreport hfree] at hstep ⊢
  refine ⟨hstep, hfree, _, [], early_keep c report, Nat.le_refl _, ?_⟩
  intro other hother
  rw [List.append_nil] at hother
  split at hother
  case isTrue => exact hearly other (List.mem_of_mem_drop hother)
  case isFalse => exact hearly other hother

/-- A registration finds the report that is kept for it. -/
theorem Keeps.register {count : Nat} (h : Keeps report count c) (spec : CommandSpec) :
    ∃ ticket, (c.register report.header.uuid spec).2 = .ok ticket ∧
      (c.register report.header.uuid spec).1.answer? ticket = some (report.answer spec) := by
  obtain ⟨before, behind, hearly, -, hothers⟩ := h.kept
  have hfound : c.early.find? (·.header.uuid = report.header.uuid) = some report := by
    rw [List.find?_eq_some_iff_append]
    refine ⟨decide_eq_true rfl, before, behind, hearly, fun other hother => ?_⟩
    simpa using hothers other (List.mem_append_left _ hother)
  rw [register_of_found spec h.free hfound]
  exact ⟨_, rfl, lookup_concat _ h.sound.issued_fresh⟩

/-! ## A ticket that waits for its report -/

/-- A ticket waits. -/
structure Awaits (slot : Waiting) (c : Correlator) : Prop where
  sound : c.Sound
  waits : slot ∈ c.waiting

/-- Operations on other uuids do not answer a ticket that waits. -/
theorem Awaits.step (h : Awaits slot c) (hstep : Step c operation c')
    (hspares : operation.Spares c.signal slot.uuid) : Awaits slot c' := by
  refine ⟨h.sound.step hstep, ?_⟩
  cases hstep with
  | duplicate | ignored | claimed | kept => exact h.waits
  | waits => exact List.mem_append_left _ h.waits
  | @fulfilled entry report taken front back hreport hwaiting huuid =>
      have hmem := h.waits
      rw [hwaiting] at hmem
      rcases List.mem_append.mp hmem with hmem | hmem
      · exact List.mem_append_left _ hmem
      · rcases List.mem_cons.mp hmem with rfl | hmem
        · exact absurd huuid.symm (hspares report hreport)
        · exact List.mem_append_right _ hmem
  | cancelled => exact absurd hspares id

/-- A command waits as long as no report under its uuid comes. -/
theorem Awaits.run (h : Awaits slot c) (operations : List Operation)
    (hspares : ∀ operation ∈ operations, operation.Spares c.signal slot.uuid) :
    Awaits slot (c.run operations) := by
  induction operations generalizing c with
  | nil => exact h
  | cons operation rest ih =>
      obtain ⟨hspare, hspares⟩ := List.forall_mem_cons.mp hspares
      have hstep := c.perform_step operation
      refine ih (h.step hstep hspare) ?_
      rw [hstep.signal_eq]
      exact hspares

/-- The ticket that waits under the uuid of a report is the one that the report answers. -/
theorem Awaits.fulfil (h : Awaits slot c) {entry : LogEntry}
    (hreport : c.signal.report? entry = some report) (huuid : report.header.uuid = slot.uuid)
    {ticket : Ticket} (hticket : ticket.number = slot.ticket) :
    (c.perform (.log entry)).answer? ticket = some (report.answer slot.spec) := by
  have hstep := c.perform_step (.log entry)
  generalize c.perform (.log entry) = c' at hstep ⊢
  cases hstep with
  | ignored hnone => exact absurd (hnone.symm.trans hreport) (by simp)
  | @kept _ other hother hfree =>
      obtain rfl : other = report := Option.some.inj (hother.symm.trans hreport)
      exact absurd huuid.symm (is_pending_eq_false_iff.mp hfree slot h.waits)
  | @fulfilled _ other taken front back hother hwaiting htaken =>
      obtain rfl : other = report := Option.some.inj (hother.symm.trans hreport)
      -- only one ticket waits under a uuid, and it has no answer yet
      have huuids := h.sound.uuids
      have htickets := h.sound.tickets.nodup_iff.mpr List.nodup_range
      have hmem := h.waits
      rw [hwaiting, List.map_append, List.map_cons, List.perm_middle.nodup_iff,
        ← List.map_append, List.nodup_cons] at huuids
      rw [hwaiting] at hmem
      obtain rfl : slot = taken := by
        have hsplit := List.perm_middle.mem_iff.mp hmem
        rcases List.mem_cons.mp hsplit with hsame | hrest
        · exact hsame
        · exact absurd (List.mem_map.mpr ⟨slot, hrest, huuid.symm.trans htaken.symm⟩) huuids.1
      have hfresh : ∀ delivered ∈ c.answers, delivered.1 ≠ slot.ticket := by
        intro delivered hdelivered hsame
        exact (List.nodup_append.mp htickets).2.2 _ (List.mem_map_of_mem h.waits) _
          (List.mem_map_of_mem hdelivered) hsame.symm
      show (c.answers ++ [(slot.ticket, _)]).lookup ticket.number = _
      rw [hticket]
      exact lookup_concat _ hfresh

/-! ## Both orders -/

/-- A report next to its registration: the order of the two leaves no trace. -/
theorem register_keep_comm {spec : CommandSpec} {entry : LogEntry}
    (hreport : c.signal.report? entry = some report)
    (hfree : c.isPending report.header.uuid = false)
    (hearly : ∀ other ∈ c.early, other.header.uuid ≠ report.header.uuid)
    (hroom : c.early.length < earlyLimit) :
    (c.perform (.log entry)).register report.header.uuid spec =
      ((c.register report.header.uuid spec).1.perform (.log entry),
        (c.register report.header.uuid spec).2) := by
  have hwaiting := is_pending_eq_false_iff.mp hfree
  have hfull : c.early.length ≠ earlyLimit := Nat.ne_of_lt hroom
  -- the report first: it is kept, and the registration takes it out again
  let kept : Correlator := { c with early := c.early ++ [report] }
  have hkept : c.perform (.log entry) = kept := by
    rw [perform_of_free hreport hfree, keep, if_neg hfull]
  have hfound : kept.early.find? (·.header.uuid = report.header.uuid) = some report := by
    have hnone : c.early.find? (·.header.uuid = report.header.uuid) = none := by simpa using hearly
    simp [kept, List.find?_append, hnone]
  have herase : kept.early.eraseP (·.header.uuid = report.header.uuid) = c.early := by
    rw [List.eraseP_append_right _ (by simpa using hearly), List.eraseP_cons_of_pos (by simp),
      List.append_nil]
  -- the registration first: the ticket waits, and the report takes it out again
  let waiting : Correlator := { c with
    waiting := c.waiting ++ [⟨report.header.uuid, c.issued, spec⟩]
    issued := c.issued + 1 }
  have hslot : waiting.waiting.find? (·.uuid = report.header.uuid) =
      some ⟨report.header.uuid, c.issued, spec⟩ := by
    have hnone : c.waiting.find? (·.uuid = report.header.uuid) = none := by simpa using hwaiting
    simp [waiting, List.find?_append, hnone]
  have htaken : waiting.waiting.eraseP (·.uuid = report.header.uuid) = c.waiting := by
    rw [List.eraseP_append_right _ (by simpa using hwaiting), List.eraseP_cons_of_pos (by simp),
      List.append_nil]
  have hfulfilled : waiting.perform (.log entry) = { c with
      answers := c.answers ++ [(c.issued, report.answer spec)]
      issued := c.issued + 1 } := by
    simp only [perform, handle_log_of_report (c := waiting) hreport, accept_of_found hslot, htaken]
    rfl
  have hwaits : c.register report.header.uuid spec = (waiting, .ok ⟨c.issued, _, spec.name⟩) :=
    register_of_none spec hfree hearly
  rw [hkept, register_of_found (c := kept) spec hfree hfound, herase, hwaits, hfulfilled]

/-- A report that comes before its registration gives the answer of a report in time. Whatever is
done to other uuids in between, as long as it puts at most fifteen more reports into the buffer, the
late registration gives a ticket that is answered as the ticket of a registration in front of the
report, wherever the report then stands among the other operations. If nothing is in between and
the buffer had room, both orders lead to the same correlator and give the same ticket. -/
theorem race_is_invisible (signal : SignalRef) (past between : List Operation)
    (spec : CommandSpec) (entry : LogEntry) (report : Report)
    (hreport : signal.report? entry = some report)
    (hfree : ((new signal).run past).isPending report.header.uuid = false)
    (hearly : ∀ other ∈ ((new signal).run past).early, other.header.uuid ≠ report.header.uuid)
    (hspares : ∀ operation ∈ between, operation.Spares signal report.header.uuid)
    (hfew : (((new signal).run past).perform (.log entry)).buffered between < earlyLimit) :
    let c := (new signal).run past
    let late := ((c.perform (.log entry)).run between).register report.header.uuid spec
    let first := c.register report.header.uuid spec
    (∃ lateTicket ticket, late.2 = .ok lateTicket ∧ first.2 = .ok ticket ∧
      late.1.answer? lateTicket = some (report.answer spec) ∧
      ∀ before behind, before ++ behind = between →
        (((first.1.run before).perform (.log entry)).run behind).answer? ticket =
          late.1.answer? lateTicket) ∧
    (c.early.length < earlyLimit →
      (c.perform (.log entry)).register report.header.uuid spec =
        (first.1.perform (.log entry), first.2)) := by
  intro c late first
  have hsound : c.Sound := run_sound signal past
  have hsignal : c.signal = signal := run_signal (new signal) past
  rw [← hsignal] at hreport hspares
  -- the late run: the report is kept until its registration comes
  have hsignal' : (c.perform (.log entry)).signal = c.signal :=
    (c.perform_step (.log entry)).signal_eq
  have hkeeps := (keeps_of_free hsound hreport hfree hearly).run between
    (by rw [hsignal']; exact hspares) (by rw [Nat.zero_add]; exact hfew)
  obtain ⟨lateTicket, hlate, hanswer⟩ := hkeeps.register spec
  -- the run in time: the ticket waits until the report comes
  let slot : Waiting := ⟨report.header.uuid, c.issued, spec⟩
  have hfirst : first = ({ c with waiting := c.waiting ++ [slot], issued := c.issued + 1 },
      .ok ⟨c.issued, report.header.uuid, spec.name⟩) := register_of_none spec hfree hearly
  have hawaits : Awaits slot first.1 :=
    ⟨hsound.step (c.register_step _ spec), by rw [hfirst]; exact List.mem_append_right _ (by simp)⟩
  refine ⟨⟨lateTicket, ⟨c.issued, report.header.uuid, spec.name⟩, hlate, by rw [hfirst], hanswer,
    ?_⟩, register_keep_comm hreport hfree hearly⟩
  intro before behind hsplit
  have hfirstSignal : first.1.signal = c.signal := (c.register_step _ spec).signal_eq
  have hbefore := hawaits.run before (by
    intro operation hoperation
    rw [hfirstSignal]
    exact hspares operation (hsplit ▸ List.mem_append_left _ hoperation))
  rw [hanswer]
  refine answer_run (hbefore.fulfil ?_ rfl rfl) behind
  rw [run_signal, hfirstSignal, hreport]

/-- The buffer is full when the report comes, and fifteen more reports follow it. -/
theorem race_is_invisible_when_full :
    let spec : CommandSpec := ⟨"deploy", 0x20, "", .empty, .raw⟩
    let entry (uuid : UInt32) : LogEntry :=
      ⟨4, 2, ⟨0⟩, ScheduledHeader.encode ⟨uuid, 0x20, ⟨0⟩, 0⟩ ++ [0x2D]⟩
    let past := (List.range 16).map fun n => Operation.log (entry (UInt32.ofNat n))
    let between := .register 3 spec ::
      (List.range 15).map fun n => Operation.log (entry (UInt32.ofNat (200 + n)))
    let report : Report := ⟨⟨100, 0x20, ⟨0⟩, 0⟩, [0x2D]⟩
    let c := (new ⟨4, 2⟩).run past
    let late := ((c.perform (.log (entry 100))).run between).register 100 spec
    c.early.length = earlyLimit ∧
      (⟨4, 2⟩ : SignalRef).report? (entry 100) = some report ∧
      c.isPending 100 = false ∧
      (∀ other ∈ c.early, other.header.uuid ≠ 100) ∧
      (∀ operation ∈ between, operation.Spares ⟨4, 2⟩ 100) ∧
      (c.perform (.log (entry 100))).buffered between = 15 ∧
      ∃ ticket, late.2 = .ok ticket ∧ late.1.answer? ticket = some (.ok (.raw [0x2D])) := by
  intro spec entry past between report c late
  have hreport : (⟨4, 2⟩ : SignalRef).report? (entry 100) = some report := by rfl
  have hfree : c.isPending 100 = false := by decide +kernel
  have hearly : ∀ other ∈ c.early, other.header.uuid ≠ 100 := by decide +kernel
  have hspares : ∀ operation ∈ between, operation.Spares ⟨4, 2⟩ 100 := by decide +kernel
  have hfew : (c.perform (.log (entry 100))).buffered between = 15 := by decide +kernel
  obtain ⟨⟨ticket, -, hlate, -, hanswer, -⟩, -⟩ :=
    race_is_invisible ⟨4, 2⟩ past between spec (entry 100) report hreport hfree hearly hspares
      (hfew ▸ by decide)
  have hresult : report.answer spec = .ok (.raw [0x2D]) := by
    rw [Report.answer, if_neg (by decide), if_neg (by decide), CommandSpec.decodeSuccess,
      if_neg (fun h => nomatch h.2)]
    rfl
  have hfull : c.early.length = earlyLimit := by decide +kernel
  exact ⟨hfull, hreport, hfree, hearly, hspares, hfew, ticket, hlate,
    hanswer.trans (congrArg some hresult)⟩

end Correlator

end GroundLink
