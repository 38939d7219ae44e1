import GroundLink.Proofs.Link.Delivery
import GroundLink.Proofs.Link.EarlyReport
import Mathlib.Data.List.Nodup

/-!
# What a correlator holds

What waits and what is kept is said here by the history alone. A `Moment` is an operation together
with the correlator that it meets. The moments of a history give its tickets, its `strays`, which
are the reports that nobody waited for since all waits were last ended, and its `prompts`, which
are the registrations that were answered at once. Each of these takes one stray, and the `Claim`
says which.

`Holdings` goes on with every operation: what is kept is the end of the strays that nobody took.
`holdings_of_history` adds what waits, which is every ticket without an answer.
-/

namespace GroundLink

/-- Whether an operation ends all waits. -/
def Operation.cancels : Operation → Bool
  | .cancelAll => true
  | .register _ _ | .log _ => false

namespace Correlator

/-- The ticket that an operation gives. -/
def ticket? (c : Correlator) : Operation → Option Ticket
  | .register uuid spec => (c.register uuid spec).2.toOption
  | .log _ | .cancelAll => none

/-- Whether an operation gives a ticket that has its answer already. -/
def answersAtOnce (c : Correlator) (operation : Operation) : Bool :=
  (c.ticket? operation).any fun ticket => ((c.perform operation).answer? ticket).isSome

/-- An operation of a history, and the correlator that it meets. -/
structure Moment where
  position : Nat
  before : Correlator
  operation : Operation

/-- The operations of a history, each with the correlator that the operations before it leave. -/
def moments (signal : SignalRef) (history : List Operation) : List Moment :=
  history.mapIdx fun position operation =>
    ⟨position, (new signal).run (history.take position), operation⟩

/-- The tickets that a history gives. -/
def tickets (signal : SignalRef) (history : List Operation) : List Ticket :=
  (moments signal history).filterMap fun moment => moment.before.ticket? moment.operation

/-- The tickets of a history that have no answer at its end. -/
def unresolved (signal : SignalRef) (history : List Operation) : List Ticket :=
  (tickets signal history).filter fun ticket =>
    (((new signal).run history).answer? ticket).isNone

/-- Where a history brings a report that nobody waits for, if the waits are not all ended after
it. -/
def strays (signal : SignalRef) (history : List Operation) : List Nat :=
  ((moments signal history).filter fun moment =>
    moment.before.buffers moment.operation &&
      (history.drop moment.position).all (!·.cancels)).map Moment.position

/-- Where a history gives a ticket that has its answer already. -/
def prompts (signal : SignalRef) (history : List Operation) : List Nat :=
  ((moments signal history).filter fun moment =>
    moment.before.answersAtOnce moment.operation).map Moment.position

/-- A registration that takes a stray. -/
structure Claim where
  /-- Where the history registers the command. -/
  registered : Nat
  /-- Where the history brings the report. -/
  source : Nat

/-- The report had come before, it was the oldest one kept under the uuid of the ticket, and it is
the answer that the ticket has at once. -/
structure Claim.Holds (signal : SignalRef) (history : List Operation) (claim : Claim) : Prop where
  stray : claim.source ∈ strays signal (history.take claim.registered)
  taken : ∃ ticket spec report, GaveAt signal history claim.registered ticket spec ∧
    reportAt signal history claim.source = some report ∧
    ((new signal).run (history.take claim.registered)).early.find?
      (·.header.uuid = ticket.uuid) = some report ∧
    ((new signal).run (history.take (claim.registered + 1))).answer? ticket =
      some (report.answer spec)

/-- The strays of a history that are not taken. -/
def unclaimed (signal : SignalRef) (history : List Operation) (claims : List Claim) : List Nat :=
  (strays signal history).filter (· ∉ claims.map Claim.source)

variable {signal : SignalRef} {history : List Operation} {operation : Operation}
variable {c c' : Correlator} {ticket : Ticket} {spec : CommandSpec} {report : Report}

/-! ## One more moment -/

/-- The last moment is that of the last operation. -/
theorem moments_concat (signal : SignalRef) (history : List Operation) (operation : Operation) :
    moments signal (history ++ [operation]) =
      moments signal history ++ [⟨history.length, (new signal).run history, operation⟩] := by
  unfold moments
  rw [List.mapIdx_concat, List.take_left' rfl]
  congr 1
  rw [List.mapIdx_eq_mapIdx_iff]
  intro position hposition
  rw [List.take_append_of_le_length (Nat.le_of_lt hposition)]

/-- Moments are within the history. -/
theorem position_lt {moment : Moment} (h : moment ∈ moments signal history) :
    moment.position < history.length := by
  obtain ⟨position, hposition, rfl⟩ := List.mem_mapIdx.mp h
  exact hposition

/-- An operation adds the ticket that it gives, if any. -/
theorem tickets_concat (signal : SignalRef) (history : List Operation) (operation : Operation) :
    tickets signal (history ++ [operation]) =
      tickets signal history ++ (((new signal).run history).ticket? operation).toList := by
  rw [tickets, moments_concat, List.filterMap_append]
  refine congrArg (_ ++ ·) ?_
  cases hticket : ((new signal).run history).ticket? operation <;> simp [hticket]

/-- An operation adds its position if it is answered at once. -/
theorem prompts_concat (signal : SignalRef) (history : List Operation) (operation : Operation) :
    prompts signal (history ++ [operation]) =
      prompts signal history ++
        if ((new signal).run history).answersAtOnce operation then [history.length] else [] := by
  rw [prompts, moments_concat, List.filter_append, List.map_append, List.filter_cons,
    List.filter_nil, apply_ite (List.map Moment.position)]
  rfl

/-- The end of all waits ends the strays, and a report that nobody waits for is one more. -/
theorem strays_concat (signal : SignalRef) (history : List Operation) (operation : Operation) :
    strays signal (history ++ [operation]) =
      (if operation.cancels then [] else strays signal history) ++
        if ((new signal).run history).buffers operation then [history.length] else [] := by
  unfold strays
  rw [moments_concat, List.filter_append, List.map_append]
  congr 1
  · have hrest : ∀ moment ∈ moments signal history,
        ((history ++ [operation]).drop moment.position).all (!·.cancels) =
          ((history.drop moment.position).all (!·.cancels) && !operation.cancels) := by
      intro moment hmoment
      rw [List.drop_append_of_le_length (Nat.le_of_lt (position_lt hmoment)), List.all_append]
      simp
    split
    case isTrue hcancels =>
      rw [List.map_eq_nil_iff, List.filter_eq_nil_iff]
      intro moment hmoment
      simp [hrest moment hmoment, hcancels]
    case isFalse hcancels =>
      refine congrArg (List.map Moment.position) (List.filter_congr fun moment hmoment => ?_)
      simp [hrest moment hmoment, hcancels]
  · have hlast : (history ++ [operation]).drop history.length = [operation] := List.drop_left' rfl
    rw [List.filter_cons, List.filter_nil, hlast, apply_ite (List.map Moment.position)]
    cases operation with
    | cancelAll => rfl
    | register | log => simp [Operation.cancels]

/-! ## What waits -/

/-- An operation that gives a ticket gives the next one, and nothing else counts. -/
theorem issued_perform (c : Correlator) (operation : Operation) :
    List.range (c.perform operation).issued =
      List.range c.issued ++ (c.ticket? operation).toList.map Ticket.number := by
  cases operation with
  | register uuid spec =>
      cases hpending : c.isPending uuid with
      | true =>
          rw [perform, ticket?, register_of_pending spec hpending]
          exact (List.append_nil _).symm
      | false =>
          obtain ⟨hgives, hissued⟩ := register_of_free spec hpending
          rw [perform, ticket?, hgives, hissued, List.range_succ]
          rfl
  | log entry =>
      have hissued : (c.perform (.log entry)).issued = c.issued := by
        have hstep := c.perform_step (.log entry)
        generalize c.perform (.log entry) = c' at hstep ⊢
        cases hstep <;> rfl
      rw [hissued]
      exact (List.append_nil _).symm
  | cancelAll => exact (List.append_nil _).symm

/-- The tickets of a history are numbered in the order in which they are given. -/
theorem number_tickets (signal : SignalRef) (history : List Operation) :
    (tickets signal history).map Ticket.number =
      List.range ((new signal).run history).issued := by
  induction history using List.reverseRecOn with
  | nil => rfl
  | append_singleton history operation ih =>
      rw [tickets_concat, List.map_append, ih, run_concat, issued_perform]

/-- A ticket that was given is among the tickets of the history. -/
theorem GaveAt.mem_tickets {position : Nat} (h : GaveAt signal history position ticket spec) :
    ticket ∈ tickets signal history := by
  obtain ⟨hposition, hregisters⟩ := List.getElem?_eq_some_iff.mp h.registers
  refine List.mem_filterMap.mpr ⟨_, List.mem_mapIdx.mpr ⟨position, hposition, rfl⟩, ?_⟩
  show ticket? _ history[position] = some ticket
  rw [hregisters, ticket?, h.gives]
  rfl

/-- The numbers without an answer are those of the commands that wait. -/
theorem Sound.unanswered (h : c.Sound) :
    ((List.range c.issued).filter fun number => (c.answers.lookup number).isNone).Perm
      (c.waiting.map Waiting.ticket) := by
  have hnodup := List.nodup_append.mp (h.tickets.nodup_iff.mpr List.nodup_range)
  refine (h.tickets.filter _).symm.trans (.of_eq ?_)
  rw [List.filter_append, List.filter_eq_self.mpr, List.filter_eq_nil_iff.mpr, List.append_nil]
  · rintro number hanswered hnone
    obtain ⟨delivered, hdelivered, rfl⟩ := List.mem_map.mp hanswered
    have hother := List.lookup_eq_none_iff.mp (Option.isNone_iff_eq_none.mp hnone)
    simpa using hother delivered hdelivered
  · intro number hwaiting
    rw [Option.isNone_iff_eq_none, List.lookup_eq_none_iff]
    intro delivered hdelivered
    simpa using hnodup.2.2 number hwaiting delivered.1 (List.mem_map_of_mem hdelivered)

/-- The tickets without an answer have the numbers of the commands that wait. -/
theorem number_unresolved (signal : SignalRef) (history : List Operation) :
    ((unresolved signal history).map Ticket.number).Perm
      (((new signal).run history).waiting.map Waiting.ticket) := by
  have hwaiting := (run_sound signal history).unanswered
  rw [← number_tickets, List.filter_map] at hwaiting
  exact hwaiting

/-- The tickets without an answer are those of the commands that wait. -/
theorem mem_unresolved :
    ticket ∈ unresolved signal history ↔
      ∃ slot ∈ ((new signal).run history).waiting, slot.held = ticket := by
  have hnumbers := number_unresolved signal history
  obtain ⟨book, hbook, -⟩ := run_accounts signal history
  have hheld : ∀ slot ∈ ((new signal).run history).waiting,
      slot.held ∈ tickets signal history := by
    intro slot hslot
    rw [hbook.waiting] at hslot
    obtain ⟨item, hitem, rfl⟩ := List.mem_map.mp hslot
    exact (hbook.gave item hitem).mem_tickets
  -- a number tells the ticket
  have hnodup : ((tickets signal history).map Ticket.number).Nodup :=
    number_tickets signal history ▸ List.nodup_range
  have hsame := List.inj_on_of_nodup_map hnodup
  constructor
  · intro hticket
    have hnumber := hnumbers.mem_iff.mp (List.mem_map_of_mem hticket)
    obtain ⟨slot, hslot, hslotNumber⟩ := List.mem_map.mp hnumber
    exact ⟨slot, hslot, hsame (hheld slot hslot) (List.mem_filter.mp hticket).1 hslotNumber⟩
  · rintro ⟨slot, hslot, rfl⟩
    have hnumber := hnumbers.mem_iff.mpr (List.mem_map_of_mem hslot)
    obtain ⟨other, hother, hotherNumber⟩ := List.mem_map.mp hnumber
    rwa [← hsame (List.mem_filter.mp hother).1 (hheld slot hslot) hotherNumber]

/-! ## What is kept -/

/-- There is one moment for each position. -/
theorem position_moments (signal : SignalRef) (history : List Operation) :
    (moments signal history).map Moment.position = List.range history.length := by
  induction history using List.reverseRecOn with
  | nil => rfl
  | append_singleton history operation ih =>
      rw [moments_concat, List.map_append, ih, List.length_append, List.length_singleton,
        List.range_succ]
      rfl

/-- Strays are in the order in which they come. -/
theorem strays_sublist (signal : SignalRef) (history : List Operation) :
    (strays signal history).Sublist (List.range history.length) := by
  rw [← position_moments signal]
  exact List.filter_sublist.map Moment.position

/-- A stray that is taken is taken off those that are not. -/
theorem unclaimed_take {claims : List Claim} {position : Nat} {before behind : List Nat}
    (h : unclaimed signal history claims = before ++ position :: behind) (registered : Nat) :
    unclaimed signal history (claims ++ [⟨registered, position⟩]) = before ++ behind := by
  have hothers : unclaimed signal history (claims ++ [⟨registered, position⟩]) =
      (unclaimed signal history claims).filter (· ≠ position) := by
    rw [unclaimed, unclaimed, List.filter_filter]
    refine List.filter_congr fun other _ => ?_
    rw [List.map_append, Bool.eq_iff_iff]
    simp [and_comm]
  have hnodup : (unclaimed signal history claims).Nodup :=
    (List.nodup_range.sublist (strays_sublist signal history)).filter _
  rw [h, List.nodup_middle, List.nodup_cons] at hnodup
  rw [hothers, h, List.filter_append, List.filter_cons_of_neg (by simp), ← List.filter_append,
    List.filter_eq_self]
  intro other hother
  exact decide_eq_true fun hsame => hnodup.1 (hsame ▸ hother)

/-- What an operation does to the strays it does to those that are not taken. -/
theorem unclaimed_concat {claims : List Claim} (operation : Operation)
    (hnew : history.length ∉ claims.map Claim.source) :
    unclaimed signal (history ++ [operation]) claims =
      (if operation.cancels then [] else unclaimed signal history claims) ++
        if ((new signal).run history).buffers operation then [history.length] else [] := by
  have hlast : [history.length].filter (· ∉ claims.map Claim.source) = [history.length] :=
    List.filter_eq_self.mpr (by simpa using hnew)
  rw [unclaimed, strays_concat, List.filter_append, apply_ite (List.filter _),
    apply_ite (List.filter _), hlast]
  rfl

/-- A claim stays true whatever comes later. -/
theorem Claim.Holds.append {claim : Claim} (more : List Operation)
    (h : claim.Holds signal history) : claim.Holds signal (history ++ more) := by
  obtain ⟨ticket, spec, report, hgave, hreport, hfound, hanswer⟩ := h.taken
  have htake : ∀ count ≤ history.length, (history ++ more).take count = history.take count :=
    fun _ => List.take_append_of_le_length
  have hlength := hgave.lt_length
  have hstray := h.stray
  rw [← htake _ (Nat.le_of_lt hlength)] at hstray hfound
  rw [← htake _ hlength] at hanswer
  exact ⟨hstray, ticket, spec, report, hgave.append more, reportAt_append more hreport, hfound,
    hanswer⟩

/-- What is claimed came within the history. -/
theorem Claim.Holds.source_lt {claim : Claim} (h : claim.Holds signal history) :
    claim.source < history.length := by
  obtain ⟨ticket, spec, report, -, hreport, -⟩ := h.taken
  exact lt_of_reportAt hreport

/-- An entry without a report is not kept. -/
theorem buffers_of_none {entry : LogEntry} (h : c.signal.report? entry = none) :
    c.buffers (.log entry) = false := by
  unfold SignalRef.report? at h
  unfold buffers handleLog
  split at h
  case isTrue hsignal => simp only [hsignal, h, if_true]
  case isFalse hsignal => simp only [hsignal, Bool.false_eq_true, if_false]

/-- A report that somebody waits for is not kept. -/
theorem buffers_of_waiting {entry : LogEntry} {slot : Waiting}
    (hreport : c.signal.report? entry = some report) (hslot : slot ∈ c.waiting)
    (huuid : slot.uuid = report.header.uuid) : c.buffers (.log entry) = false := by
  have hfound : (c.waiting.find? (·.uuid = report.header.uuid)).isSome := by
    rw [List.find?_isSome]
    exact ⟨slot, hslot, decide_eq_true huuid⟩
  obtain ⟨first, hfirst⟩ := Option.isSome_iff_exists.mp hfound
  simp only [buffers, handle_log_of_report hreport, accept_of_found hfirst]

/-- A registration under a uuid that nobody waits for is answered at once if its ticket has an
answer after it. -/
theorem answers_at_once_of_free {uuid : UInt32} (spec : CommandSpec)
    (hfree : c.isPending uuid = false) :
    c.answersAtOnce (.register uuid spec) =
      ((c.perform (.register uuid spec)).answer? ⟨c.issued, uuid, spec.name⟩).isSome := by
  rw [answersAtOnce, ticket?, (register_of_free spec hfree).1]
  rfl

/-- The report that a registration finds is its answer. -/
theorem Sound.answer_of_found {uuid : UInt32} (hsound : c.Sound) (spec : CommandSpec)
    (hfree : c.isPending uuid = false)
    (hfound : c.early.find? (·.header.uuid = uuid) = some report) :
    (c.perform (.register uuid spec)).answer? ⟨c.issued, uuid, spec.name⟩ =
      some (report.answer spec) := by
  rw [perform, register_of_found spec hfree hfound]
  exact lookup_concat _ hsound.issued_fresh

/-- The last registration of a history takes the stray that brought the report it finds. -/
theorem Claim.holds_last {position : Nat} (hrun : (new signal).run history = c)
    (hfree : c.isPending report.header.uuid = false)
    (hfound : c.early.find? (·.header.uuid = report.header.uuid) = some report)
    (hstray : position ∈ strays signal history)
    (hposition : reportAt signal history position = some report) :
    Claim.Holds signal (history ++ [.register report.header.uuid spec])
      ⟨history.length, position⟩ := by
  have hsound : c.Sound := hrun ▸ run_sound signal history
  refine ⟨?_, _, spec, report, gaveAt_length hrun hfree, reportAt_append _ hposition, ?_, ?_⟩
  · rw [List.take_left' rfl]
    exact hstray
  · rw [List.take_left' rfl, hrun]
    exact hfound
  · rw [List.take_of_length_le (by simp), run_concat, hrun]
    exact hsound.answer_of_found spec hfree hfound

/-- What is kept is the end of the strays that are not taken, and each registration that is
answered at once takes one. -/
structure Holdings (signal : SignalRef) (history : List Operation) (kept : List Nat)
    (claims : List Claim) (c : Correlator) : Prop where
  early : kept.map (reportAt signal history) = c.early.map some
  suffix : kept <:+ unclaimed signal history claims
  registered : claims.map Claim.registered = prompts signal history
  holds : ∀ claim ∈ claims, claim.Holds signal history
  once : (claims.map Claim.source).Nodup

namespace Holdings

variable {kept : List Nat} {claims : List Claim}

/-- What was brought stays where it is. -/
theorem brought (h : Holdings signal history kept claims c) (more : List Operation) :
    ∀ position ∈ kept, reportAt signal (history ++ more) position =
      reportAt signal history position := by
  intro position hposition
  have hmem : reportAt signal history position ∈ c.early.map some :=
    h.early ▸ List.mem_map_of_mem hposition
  obtain ⟨report, -, hreport⟩ := List.mem_map.mp hmem
  rw [reportAt_append more hreport.symm, hreport]

/-- The kept positions are those of the kept reports, whatever comes later. -/
theorem early_append (h : Holdings signal history kept claims c) (more : List Operation) :
    kept.map (reportAt signal (history ++ more)) = c.early.map some :=
  (List.map_congr_left (h.brought more)).trans h.early

/-- All claims stay true whatever comes later. -/
theorem holds_append (h : Holdings signal history kept claims c) (more : List Operation) :
    ∀ claim ∈ claims, claim.Holds signal (history ++ more) :=
  fun claim hclaim => (h.holds claim hclaim).append more

/-- The next operation is not taken yet. -/
theorem length_not_mem (h : Holdings signal history kept claims c) :
    history.length ∉ claims.map Claim.source := by
  intro hmem
  obtain ⟨claim, hclaim, hsource⟩ := List.mem_map.mp hmem
  exact Nat.lt_irrefl _ (hsource ▸ (h.holds claim hclaim).source_lt)

/-- An operation that neither brings a stray nor takes one nor ends the waits. -/
theorem stay (h : Holdings signal history kept claims c) (hrun : (new signal).run history = c)
    (hearly : c'.early = c.early) (hcancels : operation.cancels = false)
    (hbuffers : c.buffers operation = false) (hprompt : c.answersAtOnce operation = false) :
    Holdings signal (history ++ [operation]) kept claims c' where
  early := by rw [h.early_append, hearly]
  suffix := by
    rw [unclaimed_concat operation h.length_not_mem, hrun, hcancels, hbuffers,
      if_neg Bool.false_ne_true, if_neg Bool.false_ne_true, List.append_nil]
    exact h.suffix
  registered := by
    rw [prompts_concat, hrun, hprompt, if_neg Bool.false_ne_true, List.append_nil]
    exact h.registered
  holds := h.holds_append _
  once := h.once

/-- A report that nobody waits for is one more stray, and the oldest one makes room for it. -/
theorem keep {entry : LogEntry} (h : Holdings signal history kept claims c)
    (hrun : (new signal).run history = c) (hreport : signal.report? entry = some report)
    (hbuffers : c.buffers (.log entry) = true) :
    ∃ kept', Holdings signal (history ++ [.log entry]) kept' claims (c.keep report) := by
  have hlength : kept.length = c.early.length := by
    simpa using congrArg List.length h.early
  let old := if kept.length = earlyLimit then kept.drop 1 else kept
  have hold : old <:+ kept := by
    show ite _ _ _ <:+ kept
    split
    case isTrue => exact List.drop_suffix 1 kept
    case isFalse => exact List.suffix_rfl
  refine ⟨old ++ [history.length], ?_, ?_, ?_, h.holds_append _, h.once⟩
  · rw [early_keep, List.map_append, List.map_append, List.map_singleton, reportAt_length]
    show List.map _ (ite _ _ _) ++ [signal.report? entry] = _
    rw [hreport, hlength, apply_ite (List.map _), apply_ite (List.map some), List.map_drop,
      List.map_drop, h.early_append]
    rfl
  · rw [unclaimed_concat _ h.length_not_mem, hrun, hbuffers, if_pos rfl]
    obtain ⟨lost, hlost⟩ := hold.trans h.suffix
    exact ⟨lost, by rw [← List.append_assoc, hlost]; rfl⟩
  · rw [prompts_concat, hrun]
    exact h.registered.trans (List.append_nil _).symm

/-- The end of all waits leaves no strays. -/
theorem cancel (h : Holdings signal history kept claims c) (hrun : (new signal).run history = c) :
    Holdings signal (history ++ [.cancelAll]) [] claims c.cancelAll where
  early := rfl
  suffix := List.nil_suffix
  registered := by
    rw [prompts_concat, hrun]
    exact h.registered.trans (List.append_nil _).symm
  holds := h.holds_append _
  once := h.once

/-- A registration that finds reports under its uuid takes the oldest one. -/
theorem claim {front back : List Report} (h : Holdings signal history kept claims c)
    (hrun : (new signal).run history = c) (hfree : c.isPending report.header.uuid = false)
    (hearly : c.early = front ++ report :: back)
    (hfirst : ∀ other ∈ front, other.header.uuid ≠ report.header.uuid)
    (hrest : c'.early = front ++ back) :
    ∃ kept' claims',
      Holdings signal (history ++ [.register report.header.uuid spec]) kept' claims' c' := by
  let operation : Operation := .register report.header.uuid spec
  have hsound : c.Sound := hrun ▸ run_sound signal history
  have hfound : c.early.find? (·.header.uuid = report.header.uuid) = some report := by
    rw [List.find?_eq_some_iff_append]
    exact ⟨decide_eq_true rfl, front, back, hearly, by simpa using hfirst⟩
  have hprompt : c.answersAtOnce operation = true := by
    rw [answers_at_once_of_free spec hfree, hsound.answer_of_found spec hfree hfound]
    rfl
  -- the report stands among what is kept, and so among the strays that are not taken
  have hlabels := h.early
  rw [hearly, List.map_append, List.map_cons] at hlabels
  obtain ⟨before, others, rfl, hbefore, hothers⟩ := List.map_eq_append_iff.mp hlabels
  obtain ⟨position, behind, rfl, hposition, hbehind⟩ := List.map_eq_cons_iff.mp hothers
  obtain ⟨lost, hlost⟩ := h.suffix
  rw [← List.append_assoc] at hlost
  have hmem : position ∈ unclaimed signal history claims := by
    rw [← hlost]
    exact List.mem_append_right _ List.mem_cons_self
  obtain ⟨hstray, hnew⟩ := List.mem_filter.mp hmem
  have hclaim : Claim.Holds signal (history ++ [operation]) ⟨history.length, position⟩ :=
    Claim.holds_last hrun hfree hfound hstray hposition
  refine ⟨before ++ behind, claims ++ [⟨history.length, position⟩], ?_, ?_, ?_, ?_, ?_⟩
  · have hsub : (before ++ behind).Sublist (before ++ position :: behind) :=
      List.Sublist.append_left (List.sublist_cons_self position behind) before
    rw [List.map_congr_left fun other hother => h.brought _ other (hsub.subset hother),
      List.map_append, hbefore, hbehind, ← List.map_append, hrest]
  · have hstill : unclaimed signal (history ++ [operation]) claims =
        (lost ++ before) ++ position :: behind := by
      rw [unclaimed_concat operation h.length_not_mem, hlost]
      exact List.append_nil _
    rw [unclaimed_take hstill, List.append_assoc]
    exact List.suffix_append lost _
  · rw [prompts_concat, hrun, hprompt, if_pos rfl, List.map_append, h.registered]
    rfl
  · exact List.forall_mem_append.mpr ⟨h.holds_append _, List.forall_mem_singleton.mpr hclaim⟩
  · rw [List.map_append, List.nodup_append]
    refine ⟨h.once, List.nodup_singleton _, fun source hsource _ hlast hsame => ?_⟩
    rw [hsame, List.mem_singleton.mp hlast] at hsource
    exact of_decide_eq_true hnew hsource

/-- What is kept goes on with every operation. -/
theorem step (h : Holdings signal history kept claims ((new signal).run history))
    (operation : Operation) :
    ∃ kept' claims', Holdings signal (history ++ [operation]) kept' claims'
      ((new signal).run (history ++ [operation])) := by
  have hsound := run_sound signal history
  have hsignal : ((new signal).run history).signal = signal := run_signal (new signal) history
  have hstep := ((new signal).run history).perform_step operation
  rw [run_concat]
  generalize hrun : (new signal).run history = c at h hsound hsignal hstep ⊢
  generalize hperform : c.perform operation = c' at hstep ⊢
  cases hstep with
  | @duplicate uuid spec hpending =>
      refine ⟨kept, claims, h.stay hrun rfl rfl rfl ?_⟩
      rw [answersAtOnce, ticket?, register_of_pending spec hpending]
      rfl
  | claimed hfree hearly hfirst => exact h.claim hrun hfree hearly hfirst rfl
  | @waits uuid spec hfree hnone =>
      refine ⟨kept, claims, h.stay hrun rfl rfl rfl ?_⟩
      have hnoAnswer : c.answers.lookup c.issued = none := by
        rw [List.lookup_eq_none_iff]
        intro delivered hdelivered
        simpa using (hsound.issued_fresh delivered hdelivered).symm
      rw [answers_at_once_of_free spec hfree, hperform]
      exact congrArg Option.isSome hnoAnswer
  | ignored hreport => exact ⟨kept, claims, h.stay hrun rfl rfl (buffers_of_none hreport) rfl⟩
  | @fulfilled entry report slot front back hreport hwaiting huuid =>
      have hslot : slot ∈ c.waiting := hwaiting ▸ List.mem_append_right _ List.mem_cons_self
      exact ⟨kept, claims, h.stay hrun rfl rfl (buffers_of_waiting hreport hslot huuid) rfl⟩
  | kept hreport hfree =>
      obtain ⟨kept', hkept⟩ := h.keep hrun (hsignal ▸ hreport) (buffers_of_free hreport hfree)
      exact ⟨kept', claims, hkept⟩
  | cancelled => exact ⟨[], claims, h.cancel hrun⟩

end Holdings

/-- Every history has its holdings. -/
theorem run_holdings (signal : SignalRef) (history : List Operation) :
    ∃ kept claims, Holdings signal history kept claims ((new signal).run history) := by
  induction history using List.reverseRecOn with
  | nil => exact ⟨[], [], rfl, List.suffix_rfl, rfl, List.forall_mem_nil _, .nil⟩
  | append_singleton history operation ih =>
      obtain ⟨kept, claims, h⟩ := ih
      exact h.step operation

/-! ## Everything that is held -/

/-- A uuid is pending if a command waits under it. -/
theorem is_pending_iff {uuid : UInt32} :
    c.isPending uuid = true ↔ ∃ slot ∈ c.waiting, slot.uuid = uuid := by
  simp [isPending]

/-- A command waits under a uuid when a ticket under the uuid has no answer. -/
theorem is_pending_iff_unresolved {uuid : UInt32} :
    ((new signal).run history).isPending uuid = true ↔
      ∃ ticket ∈ unresolved signal history, ticket.uuid = uuid := by
  rw [is_pending_iff]
  constructor
  · rintro ⟨slot, hslot, huuid⟩
    exact ⟨slot.held, mem_unresolved.mpr ⟨slot, hslot, rfl⟩, huuid⟩
  · rintro ⟨ticket, hticket, huuid⟩
    obtain ⟨slot, hslot, rfl⟩ := mem_unresolved.mp hticket
    exact ⟨slot, hslot, huuid⟩

/-- The number of commands that wait is that of the tickets without an outcome. -/
theorem pending_count_eq (signal : SignalRef) (history : List Operation) :
    ((new signal).run history).pendingCount = (unresolved signal history).length := by
  have hlength := (number_unresolved signal history).length_eq
  rw [List.length_map, List.length_map] at hlength
  exact hlength.symm

/-- An entry that brings no report changes nothing. -/
theorem handle_log_of_unreported {entry : LogEntry}
    (h : (c.handleLog entry).2 = .ignored ∨ (c.handleLog entry).2 = .malformed) :
    (c.handleLog entry).1 = c := by
  cases hreport : c.signal.report? entry with
  | none => exact handle_log_of_none hreport
  | some report =>
      rw [handle_log_of_report hreport] at h
      cases hfound : c.waiting.find? (·.uuid = report.header.uuid) with
      | some slot =>
          rw [accept_of_found hfound] at h
          rcases h with h | h <;> cases h
      | none =>
          rw [accept_of_free (find?_eq_none_iff.mp hfound)] at h
          rcases h with h | h <;> cases h

/-- After any history no report is kept under a uuid that a command waits under, and at most sixteen
reports are kept. What is kept is the end of the list of the reports that nobody waited for since
all waits were last ended, in the order in which they came, without those that a registration took.
The registrations that took one are those that were answered at once; each took the oldest one kept
under its uuid, and none was taken twice. The commands that wait are as many as the tickets without
an answer, and wait under their uuids. A registration under the uuid of a command that waits fails,
and neither it nor an entry without a report changes anything. -/
theorem holdings_of_history (signal : SignalRef) (history : List Operation) :
    let c := (new signal).run history
    (∀ uuid, c.isPending uuid = true → ∀ report ∈ c.early, report.header.uuid ≠ uuid) ∧
    c.early.length ≤ 16 ∧
    (∃ claims : List Claim,
      claims.map Claim.registered = prompts signal history ∧
      (∀ claim ∈ claims, claim.Holds signal history) ∧
      (claims.map Claim.source).Nodup ∧
      c.early.map some <:+ (unclaimed signal history claims).map (reportAt signal history)) ∧
    (c.pendingCount = (unresolved signal history).length ∧
      ∀ uuid, c.isPending uuid = true ↔ ∃ ticket ∈ unresolved signal history, ticket.uuid = uuid) ∧
    (∀ uuid spec, c.isPending uuid = true →
      c.register uuid spec = (c, .error (.duplicateUuid uuid))) ∧
    ∀ entry, (c.handleLog entry).2 = .ignored ∨ (c.handleLog entry).2 = .malformed →
      (c.handleLog entry).1 = c := by
  intro c
  have hsound : c.Sound := run_sound signal history
  obtain ⟨kept, claims, hheld⟩ := run_holdings signal history
  refine ⟨fun uuid hpending report hreport => ?_, hsound.bounded, ?_,
    ⟨pending_count_eq signal history, fun uuid => is_pending_iff_unresolved⟩,
    fun uuid spec => register_of_pending spec, fun entry => handle_log_of_unreported⟩
  · obtain ⟨slot, hslot, rfl⟩ := is_pending_iff.mp hpending
    exact hsound.apart slot hslot report hreport
  · refine ⟨claims, hheld.registered, hheld.holds, hheld.once, ?_⟩
    rw [← hheld.early]
    exact hheld.suffix.map _

/-- Three reports come before their registrations. The second one is taken from the middle, and the
command under another uuid waits. -/
example :
    let spec : CommandSpec := ⟨"deploy", 0x20, "", .empty, .raw⟩
    let entry (uuid : UInt32) : LogEntry :=
      ⟨4, 2, ⟨0⟩, ScheduledHeader.encode ⟨uuid, 0x20, ⟨0⟩, 0⟩⟩
    let history := [.log (entry 7), .log (entry 8), .log (entry 9), .register 8 spec,
      .register 5 spec]
    strays ⟨4, 2⟩ history = [0, 1, 2] ∧ prompts ⟨4, 2⟩ history = [3] ∧
      unclaimed ⟨4, 2⟩ history [⟨3, 1⟩] = [0, 2] ∧
      (unresolved ⟨4, 2⟩ history).map Ticket.uuid = [5] := by
  decide +kernel

end Correlator

end GroundLink
