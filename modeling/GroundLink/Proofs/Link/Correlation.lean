import GroundLink.Link.Correlator

/-!
# What is done to a correlator

A correlator changes in three ways only: a command is registered, a log entry is looked at, or all
waits are ended. Read `Step` first: it lists what each of these can lead to, and `perform_step` says
that the list is complete. Facts about a whole history (`run`) are facts that every step keeps.
`Sound` is the first of them: every ticket that was given out either waits or has its answer, no
uuid waits twice, no report is kept whose command waits, and at most sixteen reports are kept.
-/

namespace GroundLink

/-- What is done to a correlator. -/
inductive Operation where
  | register (uuid : UInt32) (spec : CommandSpec)
  | log (entry : LogEntry)
  | cancelAll

/-- The report in an entry, if the entry is on the signal and long enough. -/
def SignalRef.report? (signal : SignalRef) (entry : LogEntry) : Option Report :=
  if signal.isOf entry then Report.ofEntry? entry else none

namespace Correlator

/-- Do one thing to a correlator. -/
def perform (c : Correlator) : Operation → Correlator
  | .register uuid spec => (c.register uuid spec).1
  | .log entry => (c.handleLog entry).1
  | .cancelAll => c.cancelAll

/-- Do one thing after another. -/
def run (c : Correlator) (operations : List Operation) : Correlator :=
  operations.foldl perform c

/-- A history goes on where its first part has led. -/
theorem run_append (c : Correlator) (first second : List Operation) :
    c.run (first ++ second) = (c.run first).run second :=
  List.foldl_append

/-- The last operation of a history comes after all others. -/
theorem run_concat (c : Correlator) (history : List Operation) (operation : Operation) :
    c.run (history ++ [operation]) = (c.run history).perform operation :=
  List.foldl_append

/-- Nothing waits under a uuid. -/
theorem is_pending_eq_false_iff {c : Correlator} {uuid : UInt32} :
    c.isPending uuid = false ↔ ∀ slot ∈ c.waiting, slot.uuid ≠ uuid := by
  simp [isPending]

/-- A search for a command that waits under a uuid comes back empty when nothing does. -/
theorem find?_eq_none_iff {c : Correlator} {uuid : UInt32} :
    c.waiting.find? (·.uuid = uuid) = none ↔ c.isPending uuid = false := by
  rw [is_pending_eq_false_iff, List.find?_eq_none]
  simp only [decide_eq_true_eq, ne_eq]

/-! ## One step -/

/-- The first item that is looked for parts a list, and taking it out joins the parts. -/
theorem split_of_find? {α : Type} {p : α → Bool} {items : List α} {item : α}
    (h : items.find? p = some item) :
    ∃ front back, items = front ++ item :: back ∧ p item = true ∧
      (∀ other ∈ front, p other = false) ∧ items.eraseP p = front ++ back := by
  obtain ⟨hitem, front, back, hitems, hfront⟩ := List.find?_eq_some_iff_append.mp h
  have hothers : ∀ other ∈ front, p other = false := fun other hother => by
    simpa using hfront other hother
  refine ⟨front, back, hitems, hitem, hothers, ?_⟩
  rw [hitems, List.eraseP_append_right _ (fun other hother => by simp [hothers other hother]),
    List.eraseP_cons_of_pos hitem]

/-- What an operation can lead to. -/
inductive Step (c : Correlator) : Operation → Correlator → Prop where
  /-- A command waits under the uuid already. -/
  | duplicate {uuid : UInt32} {spec : CommandSpec} (hpending : c.isPending uuid = true) :
      Step c (.register uuid spec) c
  /-- The oldest report under the uuid is the answer to the new ticket. -/
  | claimed {spec : CommandSpec} {report : Report} {front back : List Report}
      (hfree : c.isPending report.header.uuid = false)
      (hearly : c.early = front ++ report :: back)
      (hfirst : ∀ other ∈ front, other.header.uuid ≠ report.header.uuid) :
      Step c (.register report.header.uuid spec) { c with
        early := front ++ back
        answers := c.answers ++ [(c.issued, report.answer spec)]
        issued := c.issued + 1 }
  /-- The new ticket waits. -/
  | waits {uuid : UInt32} {spec : CommandSpec} (hfree : c.isPending uuid = false)
      (hnone : ∀ report ∈ c.early, report.header.uuid ≠ uuid) :
      Step c (.register uuid spec) { c with
        waiting := c.waiting ++ [⟨uuid, c.issued, spec⟩]
        issued := c.issued + 1 }
  /-- The entry brings no report. -/
  | ignored {entry : LogEntry} (hreport : c.signal.report? entry = none) : Step c (.log entry) c
  /-- The report is the answer to the ticket that waits under its uuid. -/
  | fulfilled {entry : LogEntry} {report : Report} {slot : Waiting} {front back : List Waiting}
      (hreport : c.signal.report? entry = some report)
      (hwaiting : c.waiting = front ++ slot :: back)
      (huuid : slot.uuid = report.header.uuid) :
      Step c (.log entry) { c with
        waiting := front ++ back
        answers := c.answers ++ [(slot.ticket, report.answer slot.spec)] }
  /-- No ticket waits for the report, which is kept. -/
  | kept {entry : LogEntry} {report : Report} (hreport : c.signal.report? entry = some report)
      (hfree : c.isPending report.header.uuid = false) :
      Step c (.log entry) (c.keep report)
  | cancelled : Step c .cancelAll c.cancelAll

/-- A uuid that waits is not registered again. -/
theorem register_of_pending {c : Correlator} {uuid : UInt32} (spec : CommandSpec)
    (h : c.isPending uuid = true) :
    c.register uuid spec = (c, .error (.duplicateUuid uuid)) := by
  simp only [register, h, if_true]

/-- A registration takes the oldest report under its uuid. -/
theorem register_of_found {c : Correlator} {uuid : UInt32} {report : Report} (spec : CommandSpec)
    (hfree : c.isPending uuid = false)
    (hfound : c.early.find? (·.header.uuid = uuid) = some report) :
    c.register uuid spec =
      ({ c with
          early := c.early.eraseP (·.header.uuid = uuid)
          answers := c.answers ++ [(c.issued, report.answer spec)]
          issued := c.issued + 1 }, .ok ⟨c.issued, uuid, spec.name⟩) := by
  simp only [register, hfree, hfound]
  rfl

/-- A registration without a report waits. -/
theorem register_of_none {c : Correlator} {uuid : UInt32} (spec : CommandSpec)
    (hfree : c.isPending uuid = false) (hnone : ∀ report ∈ c.early, report.header.uuid ≠ uuid) :
    c.register uuid spec =
      ({ c with waiting := c.waiting ++ [⟨uuid, c.issued, spec⟩], issued := c.issued + 1 },
        .ok ⟨c.issued, uuid, spec.name⟩) := by
  have hfound : c.early.find? (·.header.uuid = uuid) = none := by simpa using hnone
  simp only [register, hfree, hfound]
  rfl

/-- Registering is a step. -/
theorem register_step (c : Correlator) (uuid : UInt32) (spec : CommandSpec) :
    Step c (.register uuid spec) (c.register uuid spec).1 := by
  cases hpending : c.isPending uuid with
  | true =>
      rw [register_of_pending spec hpending]
      exact .duplicate hpending
  | false =>
      cases hfound : c.early.find? (·.header.uuid = uuid) with
      | none =>
          have hnone : ∀ report ∈ c.early, report.header.uuid ≠ uuid := by simpa using hfound
          rw [register_of_none spec hpending hnone]
          exact .waits hpending hnone
      | some report =>
          rw [register_of_found spec hpending hfound]
          obtain ⟨front, back, hearly, huuid, hfirst, herase⟩ := split_of_find? hfound
          have huuid : report.header.uuid = uuid := of_decide_eq_true huuid
          subst huuid
          rw [herase]
          exact .claimed hpending hearly
            (fun other hother => of_decide_eq_false (hfirst other hother))

/-- A report is for the command that waits under its uuid. -/
theorem accept_of_found {c : Correlator} {report : Report} {slot : Waiting}
    (h : c.waiting.find? (·.uuid = report.header.uuid) = some slot) :
    c.accept report =
      ({ c with
          waiting := c.waiting.eraseP (·.uuid = report.header.uuid)
          answers := c.answers ++ [(slot.ticket, report.answer slot.spec)] },
        .fulfilled report.header.uuid) := by
  simp only [accept, h]
  rfl

/-- A report that nobody waits for is kept. -/
theorem accept_of_free {c : Correlator} {report : Report}
    (h : c.isPending report.header.uuid = false) :
    c.accept report = (c.keep report, .unmatched report.header.uuid) := by
  simp only [accept, find?_eq_none_iff.mpr h]

/-- Accepting a report is a step. -/
theorem accept_step {c : Correlator} {entry : LogEntry} {report : Report}
    (hreport : c.signal.report? entry = some report) :
    Step c (.log entry) (c.accept report).1 := by
  cases hfound : c.waiting.find? (·.uuid = report.header.uuid) with
  | none =>
      have hfree := find?_eq_none_iff.mp hfound
      rw [accept_of_free hfree]
      exact .kept hreport hfree
  | some slot =>
      obtain ⟨front, back, hwaiting, huuid, -, herase⟩ := split_of_find? hfound
      rw [accept_of_found hfound, herase]
      exact .fulfilled hreport hwaiting (of_decide_eq_true huuid)

/-- An entry that brings a report has it accepted. -/
theorem handle_log_of_report {c : Correlator} {entry : LogEntry} {report : Report}
    (h : c.signal.report? entry = some report) : c.handleLog entry = c.accept report := by
  unfold SignalRef.report? at h
  unfold handleLog
  split at h
  case isTrue hsignal => rw [if_pos hsignal, h]
  case isFalse => cases h

/-- An entry that brings none changes nothing. -/
theorem handle_log_of_none {c : Correlator} {entry : LogEntry}
    (h : c.signal.report? entry = none) : (c.handleLog entry).1 = c := by
  unfold SignalRef.report? at h
  unfold handleLog
  split at h
  case isTrue hsignal => rw [if_pos hsignal, h]
  case isFalse hsignal => rw [if_neg hsignal]

/-- A report that no ticket waits for is kept. -/
theorem perform_of_free {c : Correlator} {entry : LogEntry} {report : Report}
    (hreport : c.signal.report? entry = some report)
    (hfree : c.isPending report.header.uuid = false) :
    c.perform (.log entry) = c.keep report := by
  rw [perform, handle_log_of_report hreport, accept_of_free hfree]

/-- The list of what an operation can lead to is complete. -/
theorem perform_step (c : Correlator) (operation : Operation) :
    Step c operation (c.perform operation) := by
  cases operation with
  | register uuid spec => exact c.register_step uuid spec
  | log entry =>
      show Step c (.log entry) (c.handleLog entry).1
      cases hreport : c.signal.report? entry with
      | none =>
          rw [handle_log_of_none hreport]
          exact .ignored hreport
      | some report =>
          rw [handle_log_of_report hreport]
          exact accept_step hreport
  | cancelAll => exact .cancelled

/-- What holds at first and is kept by every step holds after every history. -/
theorem run_induction {motive : Correlator → Prop} {c : Correlator} (start : motive c)
    (step : ∀ {c c' : Correlator} {operation : Operation},
      Step c operation c' → motive c → motive c') (operations : List Operation) :
    motive (c.run operations) := by
  induction operations generalizing c with
  | nil => exact start
  | cons operation rest ih => exact ih (step (c.perform_step operation) start)

variable {c c' : Correlator} {operation : Operation}

/-- The signal that carries answers is never another. -/
theorem Step.signal_eq (h : Step c operation c') : c'.signal = c.signal := by
  cases h <;> rfl

/-- No history changes the signal that carries answers. -/
theorem run_signal (c : Correlator) (operations : List Operation) :
    (c.run operations).signal = c.signal :=
  run_induction (motive := fun c' => c'.signal = c.signal) rfl
    (fun hstep ih => hstep.signal_eq.trans ih) operations

/-- What was delivered stays delivered. -/
theorem Step.answers_append (h : Step c operation c') :
    ∃ more, c'.answers = c.answers ++ more := by
  cases h with
  | duplicate | waits | ignored | kept => exact ⟨[], (List.append_nil _).symm⟩
  | claimed | fulfilled | cancelled => exact ⟨_, rfl⟩

/-- What was delivered once stays delivered. -/
theorem run_answers_append (c : Correlator) (operations : List Operation) :
    ∃ more, (c.run operations).answers = c.answers ++ more :=
  run_induction (motive := fun c' => ∃ more, c'.answers = c.answers ++ more)
    ⟨[], (List.append_nil _).symm⟩
    (fun hstep ⟨more, hmore⟩ => by
      obtain ⟨added, hadded⟩ := hstep.answers_append
      exact ⟨more ++ added, by rw [hadded, hmore, List.append_assoc]⟩)
    operations

/-- The answer to a ticket never changes. -/
theorem answer_run {ticket : Ticket} {answer : Answer} (h : c.answer? ticket = some answer)
    (operations : List Operation) : (c.run operations).answer? ticket = some answer := by
  obtain ⟨more, hmore⟩ := c.run_answers_append operations
  unfold answer? at h ⊢
  rw [hmore, List.lookup_append, h]
  rfl

/-! ## What holds after every history -/

/-- What holds of every correlator that comes from a new one. -/
structure Sound (c : Correlator) : Prop where
  /-- Every ticket waits or has its answer, and not twice. -/
  tickets : (c.waiting.map Waiting.ticket ++ c.answers.map Prod.fst).Perm (List.range c.issued)
  /-- No two tickets wait under one uuid. -/
  uuids : (c.waiting.map Waiting.uuid).Nodup
  /-- No report is kept whose command waits. -/
  apart : ∀ slot ∈ c.waiting, ∀ report ∈ c.early, report.header.uuid ≠ slot.uuid
  bounded : c.early.length ≤ earlyLimit

/-- A new correlator is sound. -/
theorem new_sound (signal : SignalRef) : (new signal).Sound where
  tickets := .refl _
  uuids := .nil
  apart := fun _ hslot => absurd hslot List.not_mem_nil
  bounded := Nat.zero_le _

/-- A report is kept behind the others, of which the oldest goes if there are too many. -/
theorem early_keep (c : Correlator) (report : Report) :
    (c.keep report).early =
      (if c.early.length = earlyLimit then c.early.drop 1 else c.early) ++ [report] :=
  rfl

/-- The kept reports after one more are some of those before and the new one. -/
theorem mem_keep {report other : Report} (h : other ∈ (c.keep report).early) :
    other ∈ c.early ∨ other = report := by
  rw [early_keep] at h
  rcases List.mem_append.mp h with h | h
  · refine .inl ?_
    split at h
    case isTrue => exact List.mem_of_mem_drop h
    case isFalse => exact h
  · exact .inr (List.mem_singleton.mp h)

/-- No more reports are kept than the limit says. -/
theorem length_keep_le {report : Report} (h : c.early.length ≤ earlyLimit) :
    (c.keep report).early.length ≤ earlyLimit := by
  rw [early_keep, List.length_append, List.length_singleton]
  have hpositive : 0 < earlyLimit := by decide
  split
  case isTrue hfull =>
    rw [List.length_drop]
    omega
  case isFalse hroom => omega

/-- A step leaves a correlator sound. -/
theorem Sound.step (hstep : Step c operation c') (h : c.Sound) : c'.Sound := by
  cases hstep with
  | duplicate | ignored => exact h
  | @claimed spec report front back hfree hearly hfirst =>
      have hlength : c.early.length = (front ++ back).length + 1 := by
        rw [hearly]
        simp only [List.length_append, List.length_cons]
        omega
      refine ⟨?_, h.uuids, ?_, ?_⟩
      · -- the new ticket is answered at once
        show (c.waiting.map _ ++ (c.answers ++ [_]).map Prod.fst).Perm (List.range (c.issued + 1))
        rw [List.map_append, ← List.append_assoc, List.range_succ]
        exact h.tickets.append_right _
      · intro slot hslot other hother
        refine h.apart slot hslot other ?_
        rw [hearly]
        rcases List.mem_append.mp hother with hother | hother
        · exact List.mem_append_left _ hother
        · exact List.mem_append_right _ (List.mem_cons_of_mem _ hother)
      · have := h.bounded
        show (front ++ back).length ≤ earlyLimit
        omega
  | @waits uuid spec hfree hnone =>
      rw [is_pending_eq_false_iff] at hfree
      refine ⟨?_, ?_, ?_, h.bounded⟩
      · -- the new ticket stands between those that wait and those that are answered
        show ((c.waiting ++ [_]).map Waiting.ticket ++ c.answers.map Prod.fst).Perm
          (List.range (c.issued + 1))
        rw [List.map_append, List.append_assoc, List.range_succ]
        refine (List.perm_append_comm.append_left _).trans ?_
        rw [← List.append_assoc]
        exact h.tickets.append_right _
      · show ((c.waiting ++ [_]).map Waiting.uuid).Nodup
        rw [List.map_append, List.nodup_append]
        refine ⟨h.uuids, by simp, ?_⟩
        intro first hfirst second hsecond
        obtain ⟨slot, hslot, rfl⟩ := List.mem_map.mp hfirst
        have hsecond : second = uuid := List.mem_singleton.mp hsecond
        rw [hsecond]
        exact hfree slot hslot
      · intro slot hslot report hreport
        rcases List.mem_append.mp hslot with hslot | hslot
        · exact h.apart slot hslot report hreport
        · rw [List.mem_singleton.mp hslot]
          exact hnone report hreport
  | @fulfilled entry report slot front back hreport hwaiting huuid =>
      refine ⟨?_, ?_, ?_, h.bounded⟩
      · -- the ticket goes from those that wait to those that are answered
        have htickets := h.tickets
        rw [hwaiting] at htickets
        show ((front ++ back).map Waiting.ticket ++ (c.answers ++ [_]).map Prod.fst).Perm
          (List.range c.issued)
        refine List.Perm.trans ?_ htickets
        simp only [List.map_append, List.map_cons, List.map_nil, List.append_assoc]
        refine List.Perm.append_left _ ?_
        rw [← List.append_assoc]
        exact List.perm_append_comm
      · have huuids := h.uuids
        rw [hwaiting, List.map_append, List.map_cons, List.perm_middle.nodup_iff] at huuids
        show ((front ++ back).map Waiting.uuid).Nodup
        rw [List.map_append]
        exact (List.nodup_cons.mp huuids).2
      · intro other hother
        refine h.apart other ?_
        rw [hwaiting]
        rcases List.mem_append.mp hother with hother | hother
        · exact List.mem_append_left _ hother
        · exact List.mem_append_right _ (List.mem_cons_of_mem _ hother)
  | @kept entry report hreport hfree =>
      rw [is_pending_eq_false_iff] at hfree
      refine ⟨h.tickets, h.uuids, ?_, length_keep_le h.bounded⟩
      intro slot hslot other hother
      rcases mem_keep hother with hother | rfl
      · exact h.apart slot hslot other hother
      · exact (hfree slot hslot).symm
  | cancelled =>
      refine ⟨?_, .nil, fun _ hslot => absurd hslot List.not_mem_nil, Nat.zero_le _⟩
      show ([] ++ (c.answers ++ c.waiting.map _).map Prod.fst).Perm (List.range c.issued)
      rw [List.nil_append, List.map_append, List.map_map]
      exact List.perm_append_comm.trans h.tickets

/-- What holds of a correlator holds after any history. -/
theorem run_sound (signal : SignalRef) (history : List Operation) :
    ((new signal).run history).Sound :=
  run_induction (new_sound signal) Sound.step history

/-- A ticket that was given out and has no answer waits. -/
theorem Sound.waits_of_unanswered {ticket : Ticket} (h : c.Sound)
    (hgiven : ticket.number < c.issued) (hnone : c.answer? ticket = none) :
    ∃ slot ∈ c.waiting, slot.ticket = ticket.number := by
  have hnumber := h.tickets.mem_iff.mpr (List.mem_range.mpr hgiven)
  rcases List.mem_append.mp hnumber with hwaiting | hanswered
  · exact List.mem_map.mp hwaiting
  · obtain ⟨delivered, hdelivered, hticket⟩ := List.mem_map.mp hanswered
    have hother := List.lookup_eq_none_iff.mp hnone delivered hdelivered
    simp [hticket] at hother

/-- The next ticket has no answer yet. -/
theorem Sound.issued_fresh (h : c.Sound) : ∀ delivered ∈ c.answers, delivered.1 ≠ c.issued := by
  intro delivered hdelivered hissued
  have hmem : c.issued ∈ List.range c.issued := by
    refine h.tickets.mem_iff.mp (List.mem_append_right _ ?_)
    exact hissued ▸ List.mem_map_of_mem hdelivered
  exact Nat.lt_irrefl _ (List.mem_range.mp hmem)

end Correlator

end GroundLink
