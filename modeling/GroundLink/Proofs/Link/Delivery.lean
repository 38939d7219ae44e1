import GroundLink.Link.Holder
import GroundLink.Proofs.Link.Correlation
import GroundLink.Proofs.Link.Queue
import Mathlib.Data.List.Induction
import Mathlib.Data.List.Nodup

/-!
# Every answer is delivered once

Where do the answers of a correlator come from? Read `Settlement` first: it ties one delivered
answer to the registration that gave the ticket and to the log entry that brought the answer. A
`Book` has such a record of all that a correlator holds, and `Book.Accounts` says that the records
are true and that those of one uuid are in the order in which their reports came. Every step adds
its own record at the end, so this is kept by any history.

Conversely no report is missed: one that comes while a ticket under its uuid has no answer settles
that ticket (`Settlement.Complete`).

`delivery_exactly_once` puts this together with what a holder of a ticket is told.
-/

namespace GroundLink

/-- The report that an operation brings. -/
def Operation.report? (signal : SignalRef) : Operation → Option Report
  | .log entry => signal.report? entry
  | .register _ _ | .cancelAll => none

/-- The ticket that a waiting command was registered with. -/
def Waiting.held (slot : Waiting) : Ticket :=
  ⟨slot.ticket, slot.uuid, slot.spec.name⟩

namespace Correlator

/-- The report that came at a position of a history. -/
def reportAt (signal : SignalRef) (history : List Operation) (position : Nat) : Option Report :=
  history[position]?.bind (Operation.report? signal)

/-- The registration at a position of a history gave a ticket. -/
structure GaveAt (signal : SignalRef) (history : List Operation) (position : Nat)
    (ticket : Ticket) (spec : CommandSpec) : Prop where
  registers : history[position]? = some (.register ticket.uuid spec)
  gives : (((new signal).run (history.take position)).register ticket.uuid spec).2 = .ok ticket

/-- One delivered answer, and where it comes from. -/
structure Settlement where
  ticket : Ticket
  spec : CommandSpec
  answer : Answer
  /-- Where the history registers the command. -/
  registered : Nat
  /-- Where the history brings the report, unless the wait was ended. -/
  source : Option Nat

namespace Settlement

/-- What the correlator keeps of a settlement. -/
def delivered (settled : Settlement) : Nat × Answer :=
  (settled.ticket.number, settled.answer)

/-- The ticket was given, and the answer is what the report says of the command. -/
structure Holds (signal : SignalRef) (history : List Operation) (settled : Settlement) : Prop where
  gave : GaveAt signal history settled.registered settled.ticket settled.spec
  cancelled : settled.source = none → settled.answer = .error .cancelled
  reported : ∀ position ∈ settled.source, ∃ report,
    reportAt signal history position = some report ∧
    report.header.uuid = settled.ticket.uuid ∧ settled.answer = report.answer settled.spec

/-- Of two commands under one uuid the first was registered first, and its report came first. -/
def InOrder (first second : Settlement) : Prop :=
  first.ticket.uuid = second.ticket.uuid →
    first.registered < second.registered ∧
    ∀ position ∈ first.source, ∀ later ∈ second.source, position < later

/-- Every report that came when a ticket under its uuid was without an answer settled that
ticket. -/
def Complete (signal : SignalRef) (history : List Operation) (ledger : List Settlement) : Prop :=
  ∀ position report, reportAt signal history position = some report →
    ∀ place ticket spec, GaveAt signal history place ticket spec → place < position →
      ticket.uuid = report.header.uuid →
      ((new signal).run (history.take position)).answer? ticket = none →
        ∃ settled ∈ ledger, settled.registered = place ∧ settled.source = some position

end Settlement

variable {signal : SignalRef} {history : List Operation} {operation : Operation}
variable {c c' : Correlator} {ticket : Ticket} {spec : CommandSpec} {position : Nat}

/-! ## Positions of a history -/

/-- What comes later does not change which report came at a position. -/
theorem reportAt_append {report : Report} (more : List Operation)
    (h : reportAt signal history position = some report) :
    reportAt signal (history ++ more) position = some report := by
  obtain ⟨operation, hoperation, hreport⟩ := Option.bind_eq_some_iff.mp h
  obtain ⟨hposition, -⟩ := List.getElem?_eq_some_iff.mp hoperation
  rw [reportAt, List.getElem?_append_left hposition, hoperation]
  exact hreport

/-- A report came within the history. -/
theorem lt_of_reportAt {report : Report} (h : reportAt signal history position = some report) :
    position < history.length := by
  obtain ⟨operation, hoperation, -⟩ := Option.bind_eq_some_iff.mp h
  exact (List.getElem?_eq_some_iff.mp hoperation).1

/-- The last operation is at the length of what came before. -/
theorem reportAt_length (signal : SignalRef) (history : List Operation) (operation : Operation) :
    reportAt signal (history ++ [operation]) history.length = operation.report? signal := by
  simp [reportAt]

/-- A ticket was given within the history. -/
theorem GaveAt.lt_length (h : GaveAt signal history position ticket spec) :
    position < history.length :=
  (List.getElem?_eq_some_iff.mp h.registers).1

/-- What comes later does not change which ticket was given at a position. -/
theorem GaveAt.append (more : List Operation) (h : GaveAt signal history position ticket spec) :
    GaveAt signal (history ++ more) position ticket spec where
  registers := by rw [List.getElem?_append_left h.lt_length, h.registers]
  gives := by rw [List.take_append_of_le_length (Nat.le_of_lt h.lt_length), h.gives]

/-- What was given in the first part of a history was given by the first part. -/
theorem GaveAt.of_append {more : List Operation}
    (h : GaveAt signal (history ++ more) position ticket spec) (hlt : position < history.length) :
    GaveAt signal history position ticket spec where
  registers := by rw [← h.registers, List.getElem?_append_left hlt]
  gives := by rw [← h.gives, List.take_append_of_le_length (Nat.le_of_lt hlt)]

/-- A registration under a uuid that nobody waits for gives the next ticket. -/
theorem register_of_free {uuid : UInt32} (spec : CommandSpec) (hfree : c.isPending uuid = false) :
    (c.register uuid spec).2 = .ok ⟨c.issued, uuid, spec.name⟩ ∧
      (c.register uuid spec).1.issued = c.issued + 1 := by
  cases hfound : c.early.find? (·.header.uuid = uuid) with
  | some report =>
      rw [register_of_found spec hfree hfound]
      exact ⟨rfl, rfl⟩
  | none =>
      have hnone : ∀ report ∈ c.early, report.header.uuid ≠ uuid := by simpa using hfound
      rw [register_of_none spec hfree hnone]
      exact ⟨rfl, rfl⟩

/-- A registration that gives a ticket gives the next one. -/
theorem register_ok {uuid : UInt32} (h : (c.register uuid spec).2 = .ok ticket) :
    ticket = ⟨c.issued, uuid, spec.name⟩ ∧ (c.register uuid spec).1.issued = c.issued + 1 := by
  cases hpending : c.isPending uuid with
  | true =>
      rw [register_of_pending spec hpending] at h
      cases h
  | false =>
      obtain ⟨hgives, hissued⟩ := register_of_free spec hpending
      exact ⟨Except.ok.inj (h.symm.trans hgives), hissued⟩

/-- The last operation of a history gives a ticket. -/
theorem gaveAt_length {uuid : UInt32} (hrun : (new signal).run history = c)
    (hfree : c.isPending uuid = false) :
    GaveAt signal (history ++ [.register uuid spec]) history.length
      ⟨c.issued, uuid, spec.name⟩ spec where
  registers := by simp
  gives := by
    rw [List.take_left' rfl, hrun]
    exact (register_of_free spec hfree).1

/-- A step takes no ticket back. -/
theorem Step.issued_le (h : Step c operation c') : c.issued ≤ c'.issued := by
  cases h with
  | duplicate | ignored | fulfilled | kept | cancelled => exact Nat.le_refl _
  | claimed | waits => exact Nat.le_succ _

/-- Nor does a history. -/
theorem issued_le_run (c : Correlator) (operations : List Operation) :
    c.issued ≤ (c.run operations).issued :=
  run_induction (motive := fun c' => c.issued ≤ c'.issued) (Nat.le_refl _)
    (fun hstep ih => Nat.le_trans ih hstep.issued_le) operations

/-- A ticket has as its number how many were given before. -/
theorem GaveAt.number_eq (h : GaveAt signal history position ticket spec) :
    ticket.number = ((new signal).run (history.take position)).issued :=
  congrArg Ticket.number (register_ok h.gives).1

/-- Right after it there is one ticket more. -/
theorem GaveAt.issued_eq (h : GaveAt signal history position ticket spec) :
    ((new signal).run (history.take (position + 1))).issued = ticket.number + 1 := by
  rw [List.take_add_one, h.registers, Option.toList_some, run_concat, h.number_eq]
  exact (register_ok h.gives).2

/-- A ticket stays given. -/
theorem GaveAt.lt_issued (h : GaveAt signal history position ticket spec) :
    ticket.number < ((new signal).run history).issued := by
  have hle := issued_le_run ((new signal).run (history.take (position + 1)))
    (history.drop (position + 1))
  rw [← run_append, List.take_append_drop, h.issued_eq] at hle
  exact hle

/-- Tickets are numbered in the order of registration. -/
theorem GaveAt.number_lt {other : Nat} {otherTicket : Ticket} {otherSpec : CommandSpec}
    (h : GaveAt signal history position ticket spec)
    (hother : GaveAt signal history other otherTicket otherSpec) (hlt : position < other) :
    ticket.number < otherTicket.number := by
  -- the later registration is made by a run that goes on behind the earlier one
  obtain ⟨rest, hrest⟩ := List.take_prefix_take_left (l := history) (Nat.succ_le_of_lt hlt)
  have hle := issued_le_run ((new signal).run (history.take (position + 1))) rest
  rw [← run_append, hrest, ← hother.number_eq, h.issued_eq] at hle
  exact hle

/-- A ticket tells where it was given. -/
theorem GaveAt.position_eq {other : Nat} {otherTicket : Ticket} {otherSpec : CommandSpec}
    (h : GaveAt signal history position ticket spec)
    (hother : GaveAt signal history other otherTicket otherSpec)
    (hnumber : ticket.number = otherTicket.number) : position = other := by
  rcases Nat.lt_trichotomy position other with hlt | heq | hlt
  · exact absurd (h.number_lt hother hlt) (by omega)
  · exact heq
  · exact absurd (hother.number_lt h hlt) (by omega)

/-- A position of a history gives one ticket only. -/
theorem GaveAt.ticket_eq {otherTicket : Ticket} {otherSpec : CommandSpec}
    (h : GaveAt signal history position ticket spec)
    (hother : GaveAt signal history position otherTicket otherSpec) :
    ticket = otherTicket ∧ spec = otherSpec := by
  have hregisters := Option.some.inj (h.registers.symm.trans hother.registers)
  obtain ⟨huuid, hspec⟩ := Operation.register.inj hregisters
  subst hspec
  have hgives := hother.gives
  rw [← huuid] at hgives
  exact ⟨Except.ok.inj (h.gives.symm.trans hgives), rfl⟩

/-! ## The book of a history -/

/-- What a correlator holds, with the positions of the history that it comes from. -/
structure Book where
  settled : List Settlement
  opened : List (Nat × Waiting)
  kept : List (Nat × Report)

/-- A book is that of a correlator after a history. -/
structure Book.Accounts (signal : SignalRef) (history : List Operation) (book : Book)
    (c : Correlator) : Prop where
  answers : c.answers = book.settled.map Settlement.delivered
  waiting : c.waiting = book.opened.map Prod.snd
  early : c.early = book.kept.map Prod.snd
  holds : ∀ settled ∈ book.settled, settled.Holds signal history
  gave : ∀ item ∈ book.opened, GaveAt signal history item.1 item.2.held item.2.spec
  brought : ∀ item ∈ book.kept, reportAt signal history item.1 = some item.2
  arrival : book.kept.Pairwise fun first second => first.1 < second.1
  ordered : book.settled.Pairwise Settlement.InOrder
  /-- Whoever waits was registered after all that are answered. -/
  opened_later : ∀ settled ∈ book.settled, ∀ item ∈ book.opened,
    item.2.uuid = settled.ticket.uuid → settled.registered < item.1
  /-- What is kept came after all that was used. -/
  kept_later : ∀ settled ∈ book.settled, ∀ item ∈ book.kept,
    item.2.header.uuid = settled.ticket.uuid → ∀ position ∈ settled.source, position < item.1

/-- A book is carried on when an operation is added to its history: nothing that is settled is taken
back, and a report settles what was open under its uuid. -/
structure Book.CarriedOn (signal : SignalRef) (history : List Operation) (operation : Operation)
    (book book' : Book) : Prop where
  stays : book.settled ⊆ book'.settled
  settles : ∀ report, operation.report? signal = some report →
    ∀ item ∈ book.opened, item.2.uuid = report.header.uuid →
      ∃ settled ∈ book'.settled,
        settled.registered = item.1 ∧ settled.source = some history.length

/-- A settlement stays true whatever comes later. -/
theorem Settlement.Holds.append {settled : Settlement} (more : List Operation)
    (h : settled.Holds signal history) : settled.Holds signal (history ++ more) where
  gave := h.gave.append more
  cancelled := h.cancelled
  reported position hposition := by
    obtain ⟨report, hreport, hanswer⟩ := h.reported position hposition
    exact ⟨report, reportAt_append more hreport, hanswer⟩

/-- A settlement has its report from within the history. -/
theorem Settlement.Holds.source_lt {settled : Settlement} (h : settled.Holds signal history) :
    ∀ position ∈ settled.source, position < history.length := by
  intro position hposition
  obtain ⟨report, hreport, -⟩ := h.reported position hposition
  exact lt_of_reportAt hreport

namespace Book.Accounts

variable {book : Book}

/-- A book stays that of a correlator that does not change when the history goes on. -/
theorem append (more : List Operation) (h : book.Accounts signal history c) :
    book.Accounts signal (history ++ more) c :=
  { h with
    holds := fun settled hsettled => (h.holds settled hsettled).append more
    gave := fun item hitem => (h.gave item hitem).append more
    brought := fun item hitem => reportAt_append more (h.brought item hitem) }

/-- Settlements are added behind the others; what they settle is taken off the other lists. -/
theorem settle (h : book.Accounts signal history c) (added : List Settlement)
    {opened : List (Nat × Waiting)} {kept : List (Nat × Report)}
    (hanswers : c'.answers = c.answers ++ added.map Settlement.delivered)
    (hwaiting : c'.waiting = opened.map Prod.snd) (hopened : opened.Sublist book.opened)
    (hearly : c'.early = kept.map Prod.snd) (hkept : kept.Sublist book.kept)
    (hholds : ∀ settled ∈ added, settled.Holds signal history)
    (hadded : added.Pairwise Settlement.InOrder)
    (hordered : ∀ before ∈ book.settled, ∀ settled ∈ added, before.InOrder settled)
    (hopenedLater : ∀ settled ∈ added, ∀ item ∈ opened, item.2.uuid ≠ settled.ticket.uuid)
    (hkeptLater : ∀ settled ∈ added, ∀ item ∈ kept, item.2.header.uuid = settled.ticket.uuid →
      ∀ position ∈ settled.source, position < item.1) :
    Book.Accounts signal history ⟨book.settled ++ added, opened, kept⟩ c' where
  answers := by rw [hanswers, h.answers, List.map_append]
  waiting := hwaiting
  early := hearly
  holds := List.forall_mem_append.mpr ⟨h.holds, hholds⟩
  gave item hitem := h.gave item (hopened.subset hitem)
  brought item hitem := h.brought item (hkept.subset hitem)
  arrival := h.arrival.sublist hkept
  ordered := List.pairwise_append.mpr ⟨h.ordered, hadded, hordered⟩
  opened_later := List.forall_mem_append.mpr
    ⟨fun settled hsettled item hitem => h.opened_later settled hsettled item (hopened.subset hitem),
      fun settled hsettled item hitem huuid =>
        absurd huuid (hopenedLater settled hsettled item hitem)⟩
  kept_later := List.forall_mem_append.mpr
    ⟨fun settled hsettled item hitem => h.kept_later settled hsettled item (hkept.subset hitem),
      hkeptLater⟩

/-- A ticket that waits is added behind the others. -/
theorem wait {uuid : UInt32} (h : book.Accounts signal history c)
    (hrun : (new signal).run history = c) (hfree : c.isPending uuid = false) :
    Book.Accounts signal (history ++ [.register uuid spec])
      { book with opened := book.opened ++ [(history.length, ⟨uuid, c.issued, spec⟩)] }
      { c with waiting := c.waiting ++ [⟨uuid, c.issued, spec⟩], issued := c.issued + 1 } := by
  have happend := h.append [.register uuid spec]
  refine { happend with waiting := ?_, gave := ?_, opened_later := ?_ }
  · show c.waiting ++ _ = _
    rw [h.waiting, List.map_append]
    rfl
  · refine List.forall_mem_append.mpr ⟨happend.gave, List.forall_mem_singleton.mpr ?_⟩
    exact gaveAt_length hrun hfree
  · intro settled hsettled
    refine List.forall_mem_append.mpr ⟨h.opened_later settled hsettled, ?_⟩
    exact List.forall_mem_singleton.mpr fun _ => (h.holds settled hsettled).gave.lt_length

/-- A report that is kept is added behind the others. -/
theorem keep {entry : LogEntry} {report : Report} (h : book.Accounts signal history c)
    (hreport : signal.report? entry = some report) :
    ∃ book' : Book, book'.Accounts signal (history ++ [.log entry]) (c.keep report) ∧
      book.settled ⊆ book'.settled := by
  have happend := h.append [.log entry]
  let old := if c.early.length = earlyLimit then book.kept.drop 1 else book.kept
  have hold : old.Sublist book.kept := by
    show (ite _ _ _ : List _).Sublist _
    split
    case isTrue => exact List.drop_sublist 1 _
    case isFalse => exact .refl _
  refine ⟨{ book with kept := old ++ [(history.length, report)] },
    { happend with early := ?_, brought := ?_, arrival := ?_, kept_later := ?_ },
    List.Subset.refl _⟩
  · rw [early_keep, List.map_append, h.early]
    show _ = (ite _ _ _ : List _).map _ ++ _
    rw [h.early]
    split
    case isTrue => rw [List.map_drop]; rfl
    case isFalse => rfl
  · refine List.forall_mem_append.mpr ⟨fun item hitem => ?_, List.forall_mem_singleton.mpr ?_⟩
    · exact happend.brought item (hold.subset hitem)
    · rw [reportAt_length]
      exact hreport
  · refine List.pairwise_append.mpr ⟨h.arrival.sublist hold, List.pairwise_singleton _ _, ?_⟩
    intro item hitem
    exact List.forall_mem_singleton.mpr (lt_of_reportAt (h.brought item (hold.subset hitem)))
  · intro settled hsettled
    refine List.forall_mem_append.mpr ⟨fun item hitem => ?_, List.forall_mem_singleton.mpr ?_⟩
    · exact h.kept_later settled hsettled item (hold.subset hitem)
    · exact fun _ => (h.holds settled hsettled).source_lt

/-- The oldest report that is kept under its uuid settles the new ticket. -/
theorem claim {report : Report} {front back : List Report} (h : book.Accounts signal history c)
    (hrun : (new signal).run history = c) (hfree : c.isPending report.header.uuid = false)
    (hearly : c.early = front ++ report :: back)
    (hfirst : ∀ other ∈ front, other.header.uuid ≠ report.header.uuid) :
    ∃ book' : Book, book'.Accounts signal (history ++ [.register report.header.uuid spec])
      { c with
        early := front ++ back
        answers := c.answers ++ [(c.issued, report.answer spec)]
        issued := c.issued + 1 } ∧
      book.settled ⊆ book'.settled := by
  have happend := h.append [.register report.header.uuid spec]
  rw [h.early] at hearly
  obtain ⟨before, position, behind, hkept, hsub, hbefore, hrest⟩ := Queue.labelled_split hearly
  have hmem : (position, report) ∈ book.kept := hkept ▸ List.mem_append_right _ List.mem_cons_self
  have harrival := h.arrival
  rw [hkept, List.pairwise_append, List.pairwise_cons] at harrival
  let settlement : Settlement := ⟨⟨c.issued, report.header.uuid, spec.name⟩, spec,
    report.answer spec, history.length, some position⟩
  refine ⟨_, happend.settle [settlement] rfl h.waiting (.refl _) hrest hsub ?_
    (List.pairwise_singleton _ _) ?_ ?_ ?_, List.subset_append_left _ _⟩
  · refine List.forall_mem_singleton.mpr ⟨gaveAt_length hrun hfree, nofun, ?_⟩
    rintro _ ⟨⟩
    exact ⟨report, happend.brought _ hmem, rfl, rfl⟩
  · -- the report was kept when the others were used
    intro settled hsettled
    refine List.forall_mem_singleton.mpr fun huuid => ⟨?_, ?_⟩
    · exact (h.holds settled hsettled).gave.lt_length
    · rintro earlier hearlier _ ⟨⟩
      exact h.kept_later settled hsettled _ hmem huuid.symm earlier hearlier
  · refine List.forall_mem_singleton.mpr fun item hitem => ?_
    refine is_pending_eq_false_iff.mp hfree item.2 ?_
    rw [h.waiting]
    exact List.mem_map_of_mem hitem
  · -- of the reports under the uuid this one came first
    refine List.forall_mem_singleton.mpr fun other hother huuid => ?_
    rintro _ ⟨⟩
    rcases List.mem_append.mp hother with hother | hother
    · exact absurd huuid (hfirst other.2 (hbefore ▸ List.mem_map_of_mem hother))
    · exact harrival.2.1.1 other hother

/-- A report settles the ticket that waits under its uuid. -/
theorem fulfil {entry : LogEntry} {report : Report} {slot : Waiting} {front back : List Waiting}
    (h : book.Accounts signal history c) (hsound : c.Sound)
    (hreport : signal.report? entry = some report) (hwaiting : c.waiting = front ++ slot :: back)
    (huuid : slot.uuid = report.header.uuid) :
    ∃ book' : Book, book'.Accounts signal (history ++ [.log entry])
      { c with
        waiting := front ++ back
        answers := c.answers ++ [(slot.ticket, report.answer slot.spec)] } ∧
      book.CarriedOn signal history (.log entry) book' := by
  have happend := h.append [.log entry]
  -- nothing else waits under the uuid, and no report is kept under it
  have huuids := hsound.uuids
  have hapart := hsound.apart slot (hwaiting ▸ List.mem_append_right _ List.mem_cons_self)
  have hopenedUuids : (book.opened.map (·.2.uuid)).Nodup := by
    rw [h.waiting, List.map_map] at huuids
    exact huuids
  rw [hwaiting, List.map_append, List.map_cons, List.perm_middle.nodup_iff, ← List.map_append,
    List.nodup_cons] at huuids
  rw [h.waiting] at hwaiting
  obtain ⟨before, position, behind, hopened, hsub, -, hrest⟩ := Queue.labelled_split hwaiting
  have hmem : (position, slot) ∈ book.opened :=
    hopened ▸ List.mem_append_right _ List.mem_cons_self
  let settlement : Settlement :=
    ⟨slot.held, slot.spec, report.answer slot.spec, position, some history.length⟩
  refine ⟨_, happend.settle [settlement] rfl hrest hsub h.early (.refl _) ?_
    (List.pairwise_singleton _ _) ?_ ?_ ?_, List.subset_append_left _ _, ?_⟩
  · refine List.forall_mem_singleton.mpr ⟨happend.gave _ hmem, nofun, ?_⟩
    rintro _ ⟨⟩
    exact ⟨report, (reportAt_length _ _ _).trans hreport, huuid.symm, rfl⟩
  · intro settled hsettled
    refine List.forall_mem_singleton.mpr fun hsame => ⟨?_, ?_⟩
    · exact h.opened_later settled hsettled _ hmem hsame.symm
    · rintro earlier hearlier _ ⟨⟩
      exact (h.holds settled hsettled).source_lt earlier hearlier
  · refine List.forall_mem_singleton.mpr fun other hother hsame => huuids.1 ?_
    exact List.mem_map.mpr ⟨other.2, hrest ▸ List.mem_map_of_mem hother, hsame⟩
  · refine List.forall_mem_singleton.mpr fun other hother hsame => ?_
    exact absurd hsame (hapart other.2 (h.early ▸ List.mem_map_of_mem hother))
  · intro other hother item hitem hsame
    obtain rfl : report = other := Option.some.inj (hreport.symm.trans hother)
    obtain rfl : item = (position, slot) :=
      List.inj_on_of_nodup_map hopenedUuids hitem hmem (hsame.trans huuid.symm)
    exact ⟨settlement, List.mem_append_right _ List.mem_cons_self, rfl, rfl⟩

/-- The end of all waits settles every ticket that waits. -/
theorem cancel (h : book.Accounts signal history c) (hsound : c.Sound) :
    ∃ book' : Book, book'.Accounts signal (history ++ [.cancelAll]) c.cancelAll ∧
      book.settled ⊆ book'.settled := by
  have happend := h.append [.cancelAll]
  have huuids := hsound.uuids
  rw [h.waiting, List.map_map, List.nodup_iff_pairwise_ne, List.pairwise_map] at huuids
  let settlement (item : Nat × Waiting) : Settlement :=
    ⟨item.2.held, item.2.spec, .error .cancelled, item.1, none⟩
  refine ⟨⟨_, [], []⟩, happend.settle (book.opened.map settlement) ?_ rfl (List.nil_sublist _) rfl
    (List.nil_sublist _) ?_ ?_ ?_ (fun _ _ => nofun) (fun _ _ => nofun),
    List.subset_append_left _ _⟩
  · show c.answers ++ c.waiting.map _ = _
    rw [h.waiting, List.map_map, List.map_map]
    rfl
  · refine List.forall_mem_map.mpr fun item hitem => ?_
    exact ⟨happend.gave item hitem, fun _ => rfl, nofun⟩
  · rw [List.pairwise_map]
    exact huuids.imp fun hne hsame => absurd hsame hne
  · intro settled hsettled
    refine List.forall_mem_map.mpr fun item hitem hsame => ⟨?_, nofun⟩
    exact h.opened_later settled hsettled item hitem hsame.symm

/-- The book goes on with every operation. -/
theorem step (h : book.Accounts signal history ((new signal).run history))
    (operation : Operation) :
    ∃ book' : Book, book'.Accounts signal (history ++ [operation])
        ((new signal).run (history ++ [operation])) ∧
      book.CarriedOn signal history operation book' := by
  have hsound := run_sound signal history
  have hsignal : ((new signal).run history).signal = signal := run_signal (new signal) history
  have hstep := ((new signal).run history).perform_step operation
  rw [run_concat]
  generalize hrun : (new signal).run history = c at h hsound hsignal hstep ⊢
  generalize c.perform operation = c' at hstep ⊢
  cases hstep with
  | duplicate => exact ⟨book, h.append _, List.Subset.refl _, nofun⟩
  | ignored hreport =>
      refine ⟨book, h.append _, List.Subset.refl _, fun report hother => ?_⟩
      exact absurd ((hsignal ▸ hreport).symm.trans hother) nofun
  | claimed hfree hearly hfirst =>
      obtain ⟨book', hbook', hstays⟩ := h.claim hrun hfree hearly hfirst
      exact ⟨book', hbook', hstays, nofun⟩
  | waits hfree hnone => exact ⟨_, h.wait hrun hfree, List.Subset.refl _, nofun⟩
  | fulfilled hreport hwaiting huuid => exact h.fulfil hsound (hsignal ▸ hreport) hwaiting huuid
  | kept hreport hfree =>
      obtain ⟨book', hbook', hstays⟩ := h.keep (hsignal ▸ hreport)
      refine ⟨book', hbook', hstays, fun other hother item hitem huuid => ?_⟩
      -- nobody waits for a report that is kept
      obtain rfl := Option.some.inj ((hsignal ▸ hreport).symm.trans hother)
      have hslot : item.2 ∈ c.waiting := h.waiting ▸ List.mem_map_of_mem hitem
      exact absurd huuid (is_pending_eq_false_iff.mp hfree item.2 hslot)
  | cancelled =>
      obtain ⟨book', hbook', hstays⟩ := h.cancel hsound
      exact ⟨book', hbook', hstays, nofun⟩

/-- A ticket without an answer is open. -/
theorem exists_opened (h : book.Accounts signal history ((new signal).run history))
    (hgave : GaveAt signal history position ticket spec)
    (hnone : ((new signal).run history).answer? ticket = none) :
    ∃ item ∈ book.opened, item.1 = position ∧ item.2.uuid = ticket.uuid := by
  obtain ⟨slot, hslot, hnumber⟩ :=
    (run_sound signal history).waits_of_unanswered hgave.lt_issued hnone
  rw [h.waiting] at hslot
  obtain ⟨item, hitem, rfl⟩ := List.mem_map.mp hslot
  have hplace := (h.gave item hitem).position_eq hgave hnumber
  refine ⟨item, hitem, hplace, ?_⟩
  subst hplace
  exact congrArg Ticket.uuid ((h.gave item hitem).ticket_eq hgave).1

/-- A book that is carried on misses no report that it did not miss before. -/
theorem complete_step {book' : Book} (h : book.Accounts signal history ((new signal).run history))
    (hcomplete : Settlement.Complete signal history book.settled)
    (hcarried : book.CarriedOn signal history operation book') :
    Settlement.Complete signal (history ++ [operation]) book'.settled := by
  intro position report hreport place ticket spec hgave hlt huuid hnone
  have hposition := lt_of_reportAt hreport
  rw [List.length_append, List.length_singleton, Nat.lt_succ_iff_lt_or_eq] at hposition
  rcases hposition with hposition | rfl
  · rw [reportAt, List.getElem?_append_left hposition] at hreport
    rw [List.take_append_of_le_length (Nat.le_of_lt hposition)] at hnone
    obtain ⟨settled, hsettled, hsame⟩ := hcomplete position report hreport place ticket spec
      (hgave.of_append (Nat.lt_trans hlt hposition)) hlt huuid hnone
    exact ⟨settled, hcarried.stays hsettled, hsame⟩
  · rw [reportAt_length] at hreport
    rw [List.take_left' rfl] at hnone
    obtain ⟨item, hitem, rfl, hsame⟩ := h.exists_opened (hgave.of_append hlt) hnone
    exact hcarried.settles report hreport item hitem (hsame.trans huuid)

end Book.Accounts

/-- At first the book is empty. -/
theorem new_accounts (signal : SignalRef) :
    Book.Accounts signal [] ⟨[], [], []⟩ (new signal) where
  answers := rfl
  waiting := rfl
  early := rfl
  holds := List.forall_mem_nil _
  gave := List.forall_mem_nil _
  brought := List.forall_mem_nil _
  arrival := .nil
  ordered := .nil
  opened_later := List.forall_mem_nil _
  kept_later := List.forall_mem_nil _

/-- Every history has its book, which misses no report. -/
theorem run_accounts (signal : SignalRef) (history : List Operation) :
    ∃ book : Book, book.Accounts signal history ((new signal).run history) ∧
      Settlement.Complete signal history book.settled := by
  induction history using List.reverseRecOn with
  | nil => exact ⟨_, new_accounts signal, nofun⟩
  | append_singleton history operation ih =>
      obtain ⟨book, hbook, hcomplete⟩ := ih
      obtain ⟨book', hbook', hcarried⟩ := hbook.step operation
      exact ⟨book', hbook', hbook.complete_step hcomplete hcarried⟩

/-- No ticket is settled twice. -/
theorem Book.Accounts.registered_nodup {book : Book} (h : book.Accounts signal history c)
    (hsound : c.Sound) : (book.settled.map Settlement.registered).Nodup := by
  have htickets := hsound.tickets.nodup_iff.mpr List.nodup_range
  have hnumbers := (List.nodup_append.mp htickets).2.1
  rw [h.answers, List.map_map, List.nodup_iff_pairwise_ne, List.pairwise_map] at hnumbers
  rw [List.nodup_iff_pairwise_ne, List.pairwise_map]
  refine hnumbers.imp_of_mem fun hfirst hsecond hne hsame => hne ?_
  -- two settlements of one position would have one ticket, and tickets are answered once
  have hgave := (h.holds _ hfirst).gave
  rw [hsame] at hgave
  exact congrArg Ticket.number (hgave.ticket_eq (h.holds _ hsecond).gave).1

/-- No report settles two tickets. -/
theorem Book.Accounts.source_nodup {book : Book} (h : book.Accounts signal history c) :
    (book.settled.filterMap Settlement.source).Nodup := by
  rw [List.nodup_iff_pairwise_ne, List.pairwise_filterMap]
  refine h.ordered.imp_of_mem fun hfirst hsecond horder => ?_
  rintro position hposition _ hlater rfl
  -- one position brings one report, so both tickets are under its uuid
  obtain ⟨report, hreport, huuid, -⟩ := (h.holds _ hfirst).reported position hposition
  obtain ⟨other, hother, hsame, -⟩ := (h.holds _ hsecond).reported position hlater
  obtain rfl : report = other := Option.some.inj (hreport.symm.trans hother)
  exact Nat.lt_irrefl _ ((horder (huuid.symm.trans hsame)).2 position hposition position hlater)

end Correlator

/-! ## What a holder is told -/

namespace Holder

variable {holder : Holder} {c : Correlator}

/-- What a holder is told who asks after each group of operations. -/
def readings (holder : Holder) (c : Correlator) : List (List Operation) → List (Option Answer)
  | [] => []
  | group :: rest =>
    let c := c.run group
    (holder.ask c).2 :: (holder.ask c).1.readings c rest

/-- The correlator has given what the holder keeps, and its ticket. -/
structure Faithful (holder : Holder) (c : Correlator) : Prop where
  sound : c.Sound
  given : holder.ticket.number < c.issued
  kept : ∀ answer ∈ holder.kept, c.answer? holder.ticket = some answer

/-- A holder stays faithful to a correlator that goes on. -/
theorem Faithful.run (h : holder.Faithful c) (operations : List Operation) :
    holder.Faithful (c.run operations) where
  sound := Correlator.run_induction h.sound Correlator.Sound.step operations
  given := Nat.lt_of_lt_of_le h.given (c.issued_le_run operations)
  kept answer hanswer := Correlator.answer_run (h.kept answer hanswer) operations

/-- A ticket without an answer waits. -/
theorem Faithful.owes (h : holder.Faithful c) (hnone : c.answer? holder.ticket = none) :
    c.owes holder.ticket = true := by
  obtain ⟨slot, hslot, hticket⟩ := h.sound.waits_of_unanswered h.given hnone
  exact List.any_eq_true.mpr ⟨slot, hslot, decide_eq_true hticket⟩

/-- A holder is told the answer of the correlator, and keeps it. -/
theorem Faithful.ask (h : holder.Faithful c) :
    (holder.ask c).2 = c.answer? holder.ticket ∧ (holder.ask c).1.ticket = holder.ticket ∧
      (holder.ask c).1.Faithful c := by
  cases hkept : holder.kept with
  | some answer =>
      have hask : holder.ask c = (holder, some answer) := by rw [Holder.ask, hkept]
      rw [hask]
      exact ⟨(h.kept answer hkept).symm, rfl, h⟩
  | none =>
      cases hanswer : c.answer? holder.ticket with
      | some answer =>
          have hask : holder.ask c = ({ holder with kept := some answer }, some answer) := by
            simp only [Holder.ask, hkept, hanswer]
          rw [hask]
          refine ⟨rfl, rfl, h.sound, h.given, ?_⟩
          rintro _ ⟨⟩
          exact hanswer
      | none =>
          have hask : holder.ask c = (holder, none) := by
            simp only [Holder.ask, hkept, hanswer, h.owes hanswer, if_true]
          rw [hask]
          exact ⟨rfl, rfl, h⟩

/-- Once the correlator has an answer, a holder is told nothing else. -/
theorem Faithful.readings_of_answer {answer : Answer} (h : holder.Faithful c)
    (hanswer : c.answer? holder.ticket = some answer) (groups : List (List Operation)) :
    ∀ told ∈ holder.readings c groups, told = some answer := by
  induction groups generalizing holder c with
  | nil => exact List.forall_mem_nil _
  | cons group rest ih =>
      have hlater := Correlator.answer_run hanswer group
      obtain ⟨htold, hticket, hnext⟩ := (h.run group).ask
      refine List.forall_mem_cons.mpr ⟨htold.trans hlater, ih hnext ?_⟩
      rw [hticket]
      exact hlater

/-- A holder is told answers of the correlator only. -/
theorem Faithful.answer_of_reading {answer : Answer} (h : holder.Faithful c)
    (groups : List (List Operation)) (htold : some answer ∈ holder.readings c groups) :
    (c.run groups.flatten).answer? holder.ticket = some answer := by
  induction groups generalizing holder c with
  | nil => cases htold
  | cons group rest ih =>
      obtain ⟨hfirst, hticket, hnext⟩ := (h.run group).ask
      rw [List.flatten_cons, Correlator.run_append]
      rcases List.mem_cons.mp htold with hsame | hmem
      · exact Correlator.answer_run (hfirst.symm.trans hsame.symm) rest.flatten
      · rw [← hticket]
        exact ih hnext hmem

/-- What a holder was told once it is told again. -/
theorem Faithful.readings_stay (h : holder.Faithful c) (groups : List (List Operation)) :
    (holder.readings c groups).Pairwise fun first second =>
      ∀ answer ∈ first, second = some answer := by
  induction groups generalizing holder c with
  | nil => exact .nil
  | cons group rest ih =>
      obtain ⟨hfirst, hticket, hnext⟩ := (h.run group).ask
      refine List.pairwise_cons.mpr ⟨fun second hsecond answer hanswer => ?_, ih hnext⟩
      refine hnext.readings_of_answer ?_ rest second hsecond
      rw [hticket, ← hfirst]
      exact hanswer

end Holder

namespace Correlator

variable {signal : SignalRef} {history : List Operation} {position : Nat} {ticket : Ticket}
variable {spec : CommandSpec}

/-- Whoever has just been given a ticket has not been told anything. -/
theorem GaveAt.faithful (h : GaveAt signal history position ticket spec) :
    (Holder.new ticket).Faithful ((new signal).run (history.take (position + 1))) where
  sound := run_sound signal _
  given := by
    rw [h.issued_eq]
    exact Nat.lt_succ_self _
  kept := nofun

/-- Every answer that is ever delivered has one settlement, and the settlements say: the ticket was
given to a registration, which is settled once; the answer is that the wait was ended, or what one
report under the same uuid says of the registered command; no report is used twice; a report that
comes while a ticket under its uuid has no answer is used for it; and under one uuid registrations
and reports are used in the order in which they came. Whoever holds a ticket and
asks at any times is told nothing but the answer of its settlement, and from the first time on
always. -/
theorem delivery_exactly_once (signal : SignalRef) (history : List Operation) :
    ∃ ledger : List Settlement,
      ((new signal).run history).answers = ledger.map Settlement.delivered ∧
      (∀ settled ∈ ledger, settled.Holds signal history) ∧
      (ledger.map Settlement.registered).Nodup ∧
      (ledger.filterMap Settlement.source).Nodup ∧
      Settlement.Complete signal history ledger ∧
      ledger.Pairwise Settlement.InOrder ∧
      ∀ position ticket spec, GaveAt signal history position ticket spec →
        ∀ groups : List (List Operation), groups.flatten = history.drop (position + 1) →
        let told := (Holder.new ticket).readings
          ((new signal).run (history.take (position + 1))) groups
        told.Pairwise (fun first second => ∀ answer ∈ first, second = some answer) ∧
        ∀ answer, some answer ∈ told →
          ∃ settled ∈ ledger, settled.registered = position ∧ settled.answer = answer := by
  obtain ⟨book, hbook, hcomplete⟩ := run_accounts signal history
  refine ⟨book.settled, hbook.answers, hbook.holds,
    hbook.registered_nodup (run_sound signal history), hbook.source_nodup, hcomplete,
    hbook.ordered, ?_⟩
  intro position ticket spec hgave groups hgroups told
  refine ⟨hgave.faithful.readings_stay groups, fun answer hanswer => ?_⟩
  -- what is told now is still the answer at the end of the history
  have hend := hgave.faithful.answer_of_reading groups hanswer
  rw [hgroups, ← run_append, List.take_append_drop] at hend
  obtain ⟨front, back, hanswers, -⟩ := List.lookup_eq_some_iff.mp hend
  have hmem : (ticket.number, answer) ∈ book.settled.map Settlement.delivered := by
    rw [← hbook.answers, hanswers]
    exact List.mem_append_right _ List.mem_cons_self
  obtain ⟨settled, hsettled, hdelivered⟩ := List.mem_map.mp hmem
  obtain ⟨hnumber, hsame⟩ := Prod.mk.inj hdelivered
  exact ⟨settled, hsettled, (hbook.holds settled hsettled).gave.position_eq hgave hnumber, hsame⟩

/-- A report comes before the registrations under its uuid, and the first of them takes it. The
second one waits, and so the third is a duplicate. The next report is for the one that waits. What
waits after that is cancelled. -/
theorem delivery_exactly_once_deploy :
    let spec : CommandSpec := ⟨"deploy", 0x20, "", .empty, .raw⟩
    let entry (code : UInt8) : LogEntry :=
      ⟨4, 2, ⟨0⟩, ScheduledHeader.encode ⟨7, 0x20, ⟨0⟩, 1⟩ ++ [code]⟩
    let failed (code : UInt8) : Answer := .error (.executionFailed "deploy" 7 (some code))
    let history : List Operation := [.log (entry 1), .register 7 spec, .register 7 spec,
      .register 7 spec, .log (entry 2), .register 7 spec, .cancelAll]
    ∃ ledger : List Settlement,
      ledger.map Settlement.delivered = [(0, failed 1), (1, failed 2), (2, .error .cancelled)] ∧
      (ledger.filterMap Settlement.source).Nodup ∧
      (∃ settled ∈ ledger, settled.registered = 2 ∧ settled.source = some 4) ∧
      some (failed 2) ∈ (Holder.new ⟨1, 7, "deploy"⟩).readings
        ((new ⟨4, 2⟩).run (history.take 3)) [history.drop 3] ∧
      ∃ settled ∈ ledger, settled.registered = 2 ∧ settled.answer = failed 2 := by
  intro spec entry failed history
  obtain ⟨ledger, hanswers, -, -, hsource, hcomplete, -, htold⟩ :=
    delivery_exactly_once ⟨4, 2⟩ history
  -- the names are opened before anything is computed
  have hrun : ((new ⟨4, 2⟩).run history).answers =
      [(0, failed 1), (1, failed 2), (2, .error .cancelled)] := by
    dsimp only [history, entry, failed, spec]
    rfl
  have hgave : GaveAt ⟨4, 2⟩ history 2 ⟨1, 7, "deploy"⟩ spec := by
    dsimp only [history, entry, spec]
    exact ⟨rfl, rfl⟩
  have hreport : reportAt ⟨4, 2⟩ history 4 = some ⟨⟨7, 0x20, ⟨0⟩, 1⟩, [2]⟩ := by
    dsimp only [history, entry, failed, spec]
    rfl
  have hnone : ((new ⟨4, 2⟩).run (history.take 4)).answer? ⟨1, 7, "deploy"⟩ = none := by
    dsimp only [history, entry, failed, spec]
    rfl
  have hreadings : (Holder.new ⟨1, 7, "deploy"⟩).readings
      ((new ⟨4, 2⟩).run (history.take 3)) [history.drop 3] = [some (failed 2)] := by
    dsimp only [history, entry, failed, spec]
    rfl
  have hreading : some (failed 2) ∈ (Holder.new ⟨1, 7, "deploy"⟩).readings
      ((new ⟨4, 2⟩).run (history.take 3)) [history.drop 3] :=
    hreadings ▸ List.mem_cons_self
  refine ⟨ledger, hanswers.symm.trans hrun, hsource, ?_, hreading, ?_⟩
  · exact hcomplete 4 _ hreport 2 _ spec hgave (by decide) rfl hnone
  · have hgroups : [history.drop 3].flatten = history.drop (2 + 1) := List.append_nil _
    exact (htold 2 _ spec hgave [history.drop 3] hgroups).2 _ hreading

end Correlator

end GroundLink
