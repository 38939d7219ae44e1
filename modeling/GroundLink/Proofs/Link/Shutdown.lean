import GroundLink.Proofs.Link.Delivery
import GroundLink.Proofs.Link.Dialogue
import GroundLink.Proofs.Message

/-!
# Closing a client while commands are sent

A client may be closed by one thread while others send commands, so a close is a list of steps
(`CloseStep.all`) and a call is in one of four states (`Call`). `Reaches` has one case for every
step that either of them takes, and one for the other stages of the client; read it first. The
history of the correlator is kept beside the client.

A close ends all waits in one of its last steps. `settled_unless_late` says what this comes to:
every ticket that was given before this step has an answer when the close is over, and one that was
given after it waits until a report comes. A call that has its acknowledgement but has not
registered it yet is late in this sense, and `close_misses_acknowledged` is a run in which its
ticket waits for ever.
-/

namespace GroundLink

/-! ## Steps of a close -/

/-- One thing that is done to close a client. A queue is closed in one step here, since nothing that
happens between its halves reaches the correlator. -/
inductive CloseStep where
  /-- No further call is let in. -/
  | admission
  | outbound
  | raw
  /-- The queue of responses is closed, which ends the wait of an exchange. -/
  | responses
  /-- All waits for answers to scheduled commands are ended. -/
  | scheduled
  | device
deriving DecidableEq

namespace CloseStep

/-- All steps in their order. -/
def all : List CloseStep :=
  [admission, outbound, raw, responses, scheduled, device]

/-- What a step of closing does to a client. -/
def apply (c : Client) : CloseStep → Client
  | admission => { c with closed := true }
  | outbound => { c with outbound := c.outbound.close }
  | raw => { c with raw := c.raw.close }
  | responses => { c with responses := c.responses.close }
  | scheduled => { c with correlator := c.correlator.cancelAll }
  | device => { c with isOpen := false }

/-- What is done to the correlator. -/
def operations : CloseStep → List Operation
  | scheduled => [.cancelAll]
  | admission | outbound | raw | responses | device => []

/-- A step of closing does to the correlator what its operations do. -/
theorem correlator_apply (c : Client) (step : CloseStep) :
    (apply c step).correlator = c.correlator.run step.operations := by
  cases step <;> rfl

end CloseStep

/-- The steps one after another close a client. -/
theorem Client.close_eq_steps {c : Client} (h : c.closed = false) :
    c.close = CloseStep.all.foldl CloseStep.apply c := by
  simp [Client.close, h, CloseStep.all, CloseStep.apply]

/-! ## Calls -/

/-- How far a call has come that sends a command. -/
inductive Call where
  /-- The client was open. -/
  | admitted (spec : CommandSpec) (body : Bytes) (time : Timestamp) (limit : Duration)
  /-- The command was sent. -/
  | waiting (x : Exchange)
  /-- The response was found. What it means is still to be looked at. -/
  | acknowledged (x : Exchange) (response : ResponseMessage)
  | returned (result : Except ResponseError Delivery)

/-- A call after it has tried to send its command. -/
def Call.ofSent : Except ResponseError Exchange → Call
  | .ok x => .waiting x
  | .error e => .returned (.error e)

/-- A call after it has looked for its response. -/
def Call.ofPoll (x : Exchange) : Option (Except ResponseError ResponseMessage) → Call
  | none => .waiting x
  | some (.ok response) => .acknowledged x response
  | some (.error e) => .returned (.error e)

/-- What the meaning of a response does to the correlator. -/
def Exchange.operations (x : Exchange) (response : ResponseMessage) : List Operation :=
  match response.resultByte?.bind ResultCode.ofByte?, response.scheduledUuid? with
  | some .scheduled, some uuid =>
    if x.time.isImmediate then [] else [.register uuid x.spec]
  | _, _ => []

/-- A client that is used and closed at the same time. -/
structure Shutdown where
  client : Client
  calls : List Call
  /-- The steps that are left of the close. -/
  left : List CloseStep
  /-- What was done to the correlator. -/
  history : List Operation

namespace Shutdown

/-- A call sends its command. -/
def send (s : Shutdown) (number : Nat) (spec : CommandSpec) (body : Bytes) (time : Timestamp)
    (limit : Duration) : Shutdown :=
  { s with
    client := (s.client.transmit spec body time limit).1
    calls := s.calls.set number (.ofSent (s.client.transmit spec body time limit).2) }

/-- A call looks for its response. -/
def poll (s : Shutdown) (number : Nat) (x : Exchange) : Shutdown :=
  { s with
    client := (s.client.poll x).1
    calls := s.calls.set number (.ofPoll x (s.client.poll x).2) }

/-- A call finds the meaning of its response. A uuid is registered. -/
def conclude (s : Shutdown) (number : Nat) (x : Exchange) (response : ResponseMessage) : Shutdown :=
  { s with
    client := (s.client.conclude x response).1
    calls := s.calls.set number (.returned (s.client.conclude x response).2)
    history := s.history ++ x.operations response }

/-- A response is put into the queue, if it is open. -/
def arrive (s : Shutdown) (response : ResponseMessage) : Shutdown :=
  { s with client := { s.client with responses := (s.client.responses.write response).1 } }

/-- The correlator sees log entries. -/
def correlate (s : Shutdown) : Shutdown :=
  { s with
    client := s.client.correlate
    history := s.history ++ (s.client.logs.read s.client.correlation.queue).2.map .log }

/-- The next step of the close is taken. -/
def closeNext (s : Shutdown) : Shutdown :=
  match s.left with
  | [] => s
  | step :: rest =>
    { s with
      client := step.apply s.client
      left := rest
      history := s.history ++ step.operations }

/-- What calls and a close can lead to while the other stages run between any two steps. -/
inductive Reaches (settings : Settings) (specs : Specs) : Shutdown → Prop
  | start : Reaches settings specs ⟨.start settings specs, [], CloseStep.all, []⟩
  | admits {s : Shutdown} (h : Reaches settings specs s) (hopen : s.client.closed = false)
      (spec : CommandSpec) (body : Bytes) (time : Timestamp) (limit : Duration) :
      Reaches settings specs { s with calls := s.calls ++ [.admitted spec body time limit] }
  /-- No command is sent while another exchange waits. -/
  | sends {s : Shutdown} (h : Reaches settings specs s) {number : Nat} {spec : CommandSpec}
      {body : Bytes} {time : Timestamp} {limit : Duration}
      (hcall : s.calls[number]? = some (.admitted spec body time limit))
      (hidle : ∀ x, .waiting x ∉ s.calls) :
      Reaches settings specs (s.send number spec body time limit)
  | polls {s : Shutdown} (h : Reaches settings specs s) {number : Nat} {x : Exchange}
      (hcall : s.calls[number]? = some (.waiting x)) : Reaches settings specs (s.poll number x)
  /-- The exchange has waited long enough. -/
  | expires {s : Shutdown} (h : Reaches settings specs s) {number : Nat} {x : Exchange}
      (hcall : s.calls[number]? = some (.waiting x)) :
      Reaches settings specs
        { s with calls := s.calls.set number (.returned (.error x.expired)) }
  | concludes {s : Shutdown} (h : Reaches settings specs s) {number : Nat} {x : Exchange}
      {response : ResponseMessage}
      (hcall : s.calls[number]? = some (.acknowledged x response)) :
      Reaches settings specs (s.conclude number x response)
  | arrives {s : Shutdown} (h : Reaches settings specs s) (response : ResponseMessage) :
      Reaches settings specs (s.arrive response)
  | correlates {s : Shutdown} (h : Reaches settings specs s) : Reaches settings specs s.correlate
  /-- Another stage of the client runs. -/
  | elsewhere {s : Shutdown} (h : Reaches settings specs s) {client : Client}
      (hclosed : client.closed = s.client.closed)
      (hresponses : client.responses = s.client.responses)
      (hcorrelator : client.correlator = s.client.correlator) :
      Reaches settings specs { s with client }
  | closes {s : Shutdown} (h : Reaches settings specs s) : Reaches settings specs s.closeNext

end Shutdown

/-! ## Tickets before and after the waits are ended -/

namespace Correlator

variable {signal : SignalRef} {before behind : List Operation} {position : Nat} {ticket : Ticket}
variable {spec : CommandSpec}

/-- The last operation of a history gives the ticket that is returned. -/
theorem gaveAt_concat {history : List Operation} {uuid : UInt32}
    (h : (((new signal).run history).register uuid spec).2 = .ok ticket) :
    GaveAt signal (history ++ [.register uuid spec]) history.length ticket spec := by
  obtain ⟨hticket, -⟩ := register_ok h
  have huuid : ticket.uuid = uuid := congrArg Ticket.uuid hticket
  refine ⟨?_, ?_⟩
  · rw [List.getElem?_concat_length, huuid]
  · rw [List.take_left' rfl, huuid]
    exact h

/-- A ticket is answered when all waits are ended, if not before. -/
theorem GaveAt.answered
    (h : GaveAt signal (before ++ .cancelAll :: behind) position ticket spec)
    (hlt : position < before.length) :
    ∃ answer, ((new signal).run (before ++ .cancelAll :: behind)).answer? ticket =
      some answer := by
  have hle : position + 1 ≤ before.length := hlt
  have hgiven := h.faithful
  rw [List.take_append_of_le_length hle] at hgiven
  have hcancelled := hgiven.run (before.drop (position + 1) ++ [.cancelAll])
  rw [← run_append, ← List.append_assoc, List.take_append_drop] at hcancelled
  have hnobody : ((new signal).run (before ++ [.cancelAll])).owes ticket = false := by
    rw [run_concat]
    rfl
  cases hanswer : ((new signal).run (before ++ [.cancelAll])).answer? ticket with
  | some answer =>
      refine ⟨answer, ?_⟩
      rw [List.append_cons, run_append]
      exact answer_run hanswer behind
  | none => exact absurd (hnobody.symm.trans (hcancelled.owes hanswer)) Bool.false_ne_true

/-- Where no report is kept, registrations deliver nothing. -/
theorem answers_of_registrations {operations : List Operation} {c : Correlator}
    (hearly : c.early = []) (h : ∀ operation ∈ operations,
      ∃ uuid spec, operation = .register uuid spec) :
    (c.run operations).answers = c.answers := by
  induction operations generalizing c with
  | nil => rfl
  | cons operation rest ih =>
      obtain ⟨⟨uuid, spec, rfl⟩, hrest⟩ := List.forall_mem_cons.mp h
      have hstep := c.perform_step (.register uuid spec)
      show ((c.perform _).run rest).answers = c.answers
      generalize c.perform (.register uuid spec) = c' at hstep ⊢
      cases hstep with
      | duplicate => exact ih hearly hrest
      | claimed hfree hkept =>
          -- there is no report to claim
          rw [hearly] at hkept
          exact absurd hkept.symm (by simp)
      | waits => exact ih hearly hrest

/-- A ticket that is given after all waits were ended has no answer as long as no entry comes. -/
theorem GaveAt.unanswered
    (h : GaveAt signal (before ++ .cancelAll :: behind) position ticket spec)
    (hlate : before.length < position) (honce : .cancelAll ∉ behind)
    (hquiet : ∀ entry, .log entry ∉ behind) :
    ((new signal).run (before ++ .cancelAll :: behind)).answer? ticket = none := by
  have hregisters : ∀ operation ∈ behind, ∃ uuid spec, operation = .register uuid spec := by
    intro operation hoperation
    cases operation with
    | register uuid spec => exact ⟨uuid, spec, rfl⟩
    | log entry => exact absurd hoperation (hquiet entry)
    | cancelAll => exact absurd hoperation honce
  have hearly : ((new signal).run (before ++ [.cancelAll])).early = [] := by
    rw [run_concat]
    rfl
  -- the ticket has a number that was not given yet when the waits were ended
  have hissued : ((new signal).run (before ++ [.cancelAll])).issued ≤ ticket.number := by
    obtain ⟨middle, hmiddle⟩ : ∃ middle,
        (before ++ .cancelAll :: behind).take position = before ++ [.cancelAll] ++ middle := by
      refine ⟨behind.take (position - (before.length + 1)), ?_⟩
      rw [List.append_cons, List.take_append, List.take_of_length_le]
      · simp
      · rw [List.length_append]
        exact hlate
    rw [h.number_eq, hmiddle, run_append (new signal) (before ++ [Operation.cancelAll])]
    exact issued_le_run _ middle
  have hsound := run_sound signal (before ++ [.cancelAll])
  rw [answer?, List.append_cons, run_append, answers_of_registrations hearly hregisters,
    List.lookup_eq_none_iff]
  intro delivered hdelivered
  have hnumber := hsound.tickets.mem_iff.mp
    (List.mem_append_right _ (List.mem_map_of_mem hdelivered))
  have hlt := List.mem_range.mp hnumber
  rw [bne_iff_ne]
  omega

end Correlator

/-! ## What calls do to the correlator -/

namespace Client

/-- Sending a command does not touch the correlator. -/
theorem correlator_transmit (c : Client) (spec : CommandSpec) (body : Bytes) (time : Timestamp)
    (limit : Duration) : (c.transmit spec body time limit).1.correlator = c.correlator := by
  unfold transmit discardStale
  dsimp only
  split
  case h_1 => rfl
  case h_2 =>
    split <;> rfl

/-- What the meaning of a response can lead to: a uuid is registered, or nothing changes and no
ticket is given. -/
theorem conclude_cases (c : Client) (x : Exchange) (response : ResponseMessage) :
    (x.operations response = [] ∧ (c.conclude x response).1 = c ∧
      ∀ ticket, (c.conclude x response).2 ≠ .ok (.scheduled ticket)) ∨
    ∃ uuid, x.operations response = [.register uuid x.spec] ∧
      c.conclude x response = ({ c with correlator := (c.correlator.register uuid x.spec).1 },
        (c.correlator.register uuid x.spec).2.map .scheduled) := by
  unfold conclude
  split
  case h_1 hbyte =>
    refine .inl ⟨?_, rfl, fun _ => nofun⟩
    rw [Exchange.operations, hbyte]
    rfl
  case h_2 code hbyte =>
    split
    case h_1 hcode =>
      refine .inl ⟨?_, rfl, fun _ => nofun⟩
      rw [Exchange.operations, hbyte, Option.bind_some, hcode]
    case h_2 result hcode =>
      rw [Exchange.operations, hbyte, Option.bind_some, hcode]
      cases x.time.isImmediate with
      | true =>
          refine .inl ⟨?_, ?_, fun ticket hticket => ?_⟩
          · cases result <;> cases response.scheduledUuid? <;> rfl
          · rw [if_pos rfl]
            split <;> rfl
          · -- a command that ran at once gives no ticket
            rw [if_pos rfl] at hticket
            split at hticket
            case isTrue =>
              cases hdecoded : x.spec.decodeSuccess response.data with
              | error | ok =>
                  rw [hdecoded] at hticket
                  cases hticket
            case isFalse => cases hticket
      | false =>
          cases result with
          | scheduled =>
              cases response.scheduledUuid? with
              | none => exact .inl ⟨rfl, rfl, fun _ => nofun⟩
              | some uuid => exact .inr ⟨uuid, rfl, rfl⟩
          | success | invalidArguments | unknownCommand | scheduleFull | failed | busy =>
              exact .inl ⟨rfl, rfl, fun _ => nofun⟩

/-- The correlator hears the log entries of one batch. -/
theorem correlator_correlate (c : Client) :
    c.correlate.correlator =
      c.correlator.run ((c.logs.read c.correlation.queue).2.map .log) := by
  rw [Correlator.run, List.foldl_map]
  rfl

end Client

/-! ## All calls and the close -/

namespace Shutdown

variable {settings : Settings} {specs : Specs} {s : Shutdown}

/-- All waits are ended once, by one of the steps that are no longer left. -/
inductive Ended (left : List CloseStep) (history : List Operation) : Prop
  | notYet (hleft : .scheduled ∈ left) (hnever : .cancelAll ∉ history) : Ended left history
  | once {before behind : List Operation} (hleft : .scheduled ∉ left)
      (hhistory : history = before ++ .cancelAll :: behind) (hbefore : .cancelAll ∉ before)
      (hbehind : .cancelAll ∉ behind) : Ended left history

/-- What holds of every client that is used and closed. -/
structure Tracked (settings : Settings) (s : Shutdown) : Prop where
  correlator : s.client.correlator = (Correlator.new settings.scheduledResponse).run s.history
  left : s.left <:+ CloseStep.all
  ended : Ended s.left s.history
  /-- Every ticket that a call has returned was given by a registration. -/
  gave : ∀ ticket, .returned (.ok (.scheduled ticket)) ∈ s.calls → ∃ position spec,
    Correlator.GaveAt settings.scheduledResponse s.history position ticket spec

/-- The end of all waits stays where it is while other operations follow. -/
theorem Ended.append {left : List CloseStep} {history : List Operation} (h : Ended left history)
    {more : List Operation} (hmore : .cancelAll ∉ more) : Ended left (history ++ more) := by
  cases h with
  | notYet hleft hnever =>
      refine .notYet hleft fun hmem => ?_
      exact (List.mem_append.mp hmem).elim hnever hmore
  | once hleft hhistory hbefore hbehind =>
      refine .once hleft ?_ hbefore fun hmem => (List.mem_append.mp hmem).elim hbehind hmore
      rw [hhistory, List.append_assoc, List.cons_append]

/-- The waits are ended by their own step, and by no other. -/
theorem Ended.next {step : CloseStep} {rest : List CloseStep} {history : List Operation}
    (h : Ended (step :: rest) history) (hnodup : (step :: rest).Nodup) :
    Ended rest (history ++ step.operations) := by
  obtain ⟨hstep, -⟩ := List.nodup_cons.mp hnodup
  by_cases hscheduled : step = .scheduled
  · subst hscheduled
    cases h with
    | notYet _ hnever => exact .once hstep rfl hnever List.not_mem_nil
    | once hleft => exact absurd List.mem_cons_self hleft
  · have hnothing : step.operations = [] := by
      cases step with
      | scheduled => exact absurd rfl hscheduled
      | admission | outbound | raw | responses | device => rfl
    rw [hnothing, List.append_nil]
    cases h with
    | notYet hleft hnever =>
        exact .notYet ((List.mem_cons.mp hleft).resolve_left (Ne.symm hscheduled)) hnever
    | once hleft hhistory hbefore hbehind =>
        exact .once (fun hmem => hleft (List.mem_cons_of_mem step hmem)) hhistory hbefore hbehind

/-- A stage runs that does nothing of its own to the correlator and returns no ticket. -/
theorem Tracked.quiet (h : s.Tracked settings) {client : Client} {calls : List Call}
    (hcorrelator : client.correlator = s.client.correlator)
    (hcalls : ∀ ticket, .returned (.ok (.scheduled ticket)) ∈ calls →
      .returned (.ok (.scheduled ticket)) ∈ s.calls) :
    Tracked settings { s with client, calls } where
  correlator := hcorrelator.trans h.correlator
  left := h.left
  ended := h.ended
  gave ticket hticket := h.gave ticket (hcalls ticket hticket)

/-- The correlator is used. -/
theorem Tracked.perform (h : s.Tracked settings) {client : Client} {operations : List Operation}
    (hcorrelator : client.correlator = s.client.correlator.run operations)
    (honce : .cancelAll ∉ operations) :
    Tracked settings { s with client, history := s.history ++ operations } where
  correlator := by
    rw [Correlator.run_append, ← h.correlator]
    exact hcorrelator
  left := h.left
  ended := h.ended.append honce
  gave ticket hticket := by
    obtain ⟨position, spec, hgave⟩ := h.gave ticket hticket
    exact ⟨position, spec, hgave.append operations⟩

/-- A call that goes on has not returned, or has returned what it is said to. -/
theorem mem_calls_set {calls : List Call} {number : Nat} {call : Call} {ticket : Ticket}
    (h : .returned (.ok (.scheduled ticket)) ∈ calls.set number call)
    (hcall : call ≠ .returned (.ok (.scheduled ticket))) :
    .returned (.ok (.scheduled ticket)) ∈ calls :=
  (List.mem_or_eq_of_mem_set h).resolve_right hcall.symm

/-- The records stay right when a command is sent. -/
theorem Tracked.sends (h : s.Tracked settings) (number : Nat) (spec : CommandSpec) (body : Bytes)
    (time : Timestamp) (limit : Duration) :
    (s.send number spec body time limit).Tracked settings := by
  refine h.quiet (s.client.correlator_transmit spec body time limit) fun ticket hticket => ?_
  refine mem_calls_set hticket ?_
  cases (s.client.transmit spec body time limit).2 with
  | error | ok => exact nofun

/-- The records stay right when a call looks for its answer. -/
theorem Tracked.polls (h : s.Tracked settings) (number : Nat) (x : Exchange) :
    (s.poll number x).Tracked settings := by
  refine h.quiet ?_ fun ticket hticket => mem_calls_set hticket ?_
  · rw [Client.poll_fst]
  · cases (s.client.poll x).2 with
    | none => exact nofun
    | some result =>
        cases result with
        | error | ok => exact nofun

/-- The records stay right when a call concludes. -/
theorem Tracked.concludes (h : s.Tracked settings) (number : Nat) (x : Exchange)
    (response : ResponseMessage) : (s.conclude number x response).Tracked settings := by
  rcases s.client.conclude_cases x response with ⟨hnothing, hclient, hnone⟩ |
    ⟨uuid, hregisters, hconcluded⟩
  · rw [conclude, hnothing, List.append_nil]
    refine h.quiet (congrArg Client.correlator hclient) fun ticket hticket => ?_
    exact mem_calls_set hticket fun hcall => hnone ticket (Call.returned.inj hcall)
  · have hperform : Tracked settings { s with
        client := { s.client with correlator := (s.client.correlator.register uuid x.spec).1 }
        history := s.history ++ [.register uuid x.spec] } := h.perform rfl (by simp)
    rw [conclude, hregisters, hconcluded]
    refine { hperform with gave := fun ticket hticket => ?_ }
    rcases List.mem_or_eq_of_mem_set hticket with hold | hnew
    · exact hperform.gave ticket hold
    · have hgiven := Call.returned.inj hnew
      cases hregistered : (s.client.correlator.register uuid x.spec).2 with
      | error e =>
          rw [hregistered] at hgiven
          cases hgiven
      | ok given =>
          rw [hregistered] at hgiven
          cases hgiven
          rw [h.correlator] at hregistered
          exact ⟨s.history.length, x.spec, Correlator.gaveAt_concat hregistered⟩

/-- The records stay right when closing goes on by a step. -/
theorem Tracked.closes (h : s.Tracked settings) : s.closeNext.Tracked settings := by
  unfold closeNext
  split
  case h_1 => exact h
  case h_2 step rest hleft =>
    have hsuffix := h.left
    rw [hleft] at hsuffix
    have hnodup : (step :: rest).Nodup := hsuffix.sublist.nodup (by decide)
    have hended := h.ended
    rw [hleft] at hended
    refine ⟨?_, (List.suffix_cons step rest).trans hsuffix, ?_, ?_⟩
    · rw [CloseStep.correlator_apply, Correlator.run_append, h.correlator]
    · exact hended.next hnodup
    · intro ticket hticket
      obtain ⟨position, spec, hgave⟩ := h.gave ticket hticket
      exact ⟨position, spec, hgave.append _⟩

/-- So they are right wherever calls and closing lead. -/
theorem Reaches.tracked (h : Reaches settings specs s) : s.Tracked settings := by
  induction h with
  | start =>
      have hleft : CloseStep.scheduled ∈ CloseStep.all := by decide
      exact ⟨rfl, List.suffix_refl _, .notYet hleft nofun, nofun⟩
  | admits _ _ spec body time limit ih =>
      refine ih.quiet rfl fun ticket hticket => ?_
      exact (List.mem_append.mp hticket).resolve_right (by simp)
  | @sends _ _ number spec body time limit _ _ ih => exact ih.sends number spec body time limit
  | @polls _ _ number x _ ih => exact ih.polls number x
  | expires _ _ ih => exact ih.quiet rfl fun ticket hticket => mem_calls_set hticket nofun
  | @concludes _ _ number x response _ ih => exact ih.concludes number x response
  | arrives _ response ih => exact ih.quiet rfl fun _ hticket => hticket
  | @correlates s _ ih => exact ih.perform s.client.correlator_correlate (by simp)
  | elsewhere _ _ _ hcorrelator ih => exact ih.quiet hcorrelator fun _ hticket => hticket
  | closes _ ih => exact ih.closes

/-- A close that was begun can be finished at once. -/
theorem Reaches.finish (h : Reaches settings specs s) :
    Reaches settings specs ⟨s.left.foldl CloseStep.apply s.client, s.calls, [],
      s.history ++ s.left.flatMap CloseStep.operations⟩ := by
  obtain ⟨client, calls, left, history⟩ := s
  induction left generalizing client history with
  | nil => simpa using h
  | cons step rest ih =>
      have hrest := ih _ _ h.closes
      simpa using hrest

/-- A client can be closed without anything in between. -/
theorem Reaches.close (h : Reaches settings specs s) (hleft : s.left = CloseStep.all)
    (hopen : s.client.closed = false) :
    Reaches settings specs ⟨s.client.close, s.calls, [], s.history ++ [.cancelAll]⟩ := by
  have hfinish := h.finish
  rw [hleft, ← Client.close_eq_steps hopen] at hfinish
  exact hfinish

/-- A scheduled command was sent and acknowledged with the uuid 7, and nothing else has happened. -/
theorem exists_acknowledged : ∃ s, Reaches .default ⟨.empty, .empty, .empty⟩ s ∧
    s.client.closed = false ∧ s.client.correlator = .new Settings.default.scheduledResponse ∧
    s.calls = [.acknowledged ⟨⟨"deploy", 32, "", .empty, .raw⟩, ⟨9⟩, ⟨0⟩, 1, none⟩
      (.ofSchedule 1 7)] ∧
    s.left = CloseStep.all ∧ s.history = [] := by
  let spec : CommandSpec := ⟨"deploy", 32, "", .empty, .raw⟩
  let specs : Specs := ⟨.empty, .empty, .empty⟩
  let x : Exchange := ⟨spec, ⟨9⟩, ⟨0⟩, 1, none⟩
  let response : ResponseMessage := .ofSchedule 1 7
  obtain ⟨frame, htransmit⟩ : ∃ frame, (Client.start .default specs).transmit spec [] ⟨9⟩ ⟨0⟩ =
      ({ Client.start .default specs with
        seq := 1
        outbound := ⟨64, false, [.item frame], false, false, 0⟩ }, .ok x) := ⟨_, rfl⟩
  let sent : Shutdown := ⟨((Client.start .default specs).transmit spec [] ⟨9⟩ ⟨0⟩).1,
    [.ofSent ((Client.start .default specs).transmit spec [] ⟨9⟩ ⟨0⟩).2], CloseStep.all, []⟩
  have hsent : Reaches .default specs sent := by
    have hadmitted : Reaches .default specs
        ⟨.start .default specs, [.admitted spec [] ⟨9⟩ ⟨0⟩], CloseStep.all, []⟩ :=
      Reaches.start.admits rfl spec [] ⟨9⟩ ⟨0⟩
    exact @Reaches.sends _ _ _ hadmitted 0 _ _ _ _ rfl (by simp)
  have hs : sent = ⟨{ Client.start .default specs with
      seq := 1
      outbound := ⟨64, false, [.item frame], false, false, 0⟩ }, [.waiting x], CloseStep.all,
      []⟩ := by
    show Shutdown.mk _ _ _ _ = _
    rw [htransmit]
    rfl
  -- from here on the frame that was sent is not worked out again
  clear_value sent
  subst hs
  have hpolled := @Reaches.polls _ _ _ (hsent.arrives response) 0 x rfl
  exact ⟨_, hpolled, rfl, rfl, rfl, rfl, rfl⟩

/-- A call that was acknowledged registers the uuid. -/
theorem conclude_acknowledged {x : Exchange} (hx : x.time.isImmediate = false) (s : Shutdown)
    (number : Nat) (seq : UInt8) (uuid : UInt32) :
    s.conclude number x (.ofSchedule seq uuid) =
      ⟨{ s.client with correlator := (s.client.correlator.register uuid x.spec).1 },
        s.calls.set number
          (.returned ((s.client.correlator.register uuid x.spec).2.map .scheduled)),
        s.left, s.history ++ [.register uuid x.spec]⟩ := by
  have hbyte : (ResponseMessage.ofSchedule seq uuid).resultByte? = some 1 := rfl
  have hcode : ResultCode.ofByte? 1 = some .scheduled := by decide
  have huuid : (ResponseMessage.ofSchedule seq uuid).scheduledUuid? = some uuid := by
    have hlength : 4 ≤ (Bytes.ofUInt32 uuid).length := by simp [Bytes.ofUInt32]
    rw [ResponseMessage.scheduledUuid?, if_pos ⟨hbyte, hlength⟩]
    exact congrArg some (Bytes.toUInt32_ofUInt32 uuid)
  simp only [conclude, Client.conclude, Exchange.operations, hbyte, hcode, hx, huuid,
    Option.bind_some, Bool.false_eq_true, if_false]

/-- When a close is over, a ticket that was given before all waits were ended has an answer. One
that was given later has none until a log entry comes, so its holder waits for ever if none does. -/
theorem Reaches.settled_unless_late (h : Reaches settings specs s) (hover : s.left = []) :
    ∃ before behind, s.history = before ++ .cancelAll :: behind ∧
      ∀ ticket, .returned (.ok (.scheduled ticket)) ∈ s.calls → ∃ position spec,
        Correlator.GaveAt settings.scheduledResponse s.history position ticket spec ∧
        (position < before.length →
          ∃ answer, ((Holder.new ticket).ask s.client.correlator).2 = some answer) ∧
        (before.length ≤ position → (∀ entry, .log entry ∉ behind) →
          ((Holder.new ticket).ask s.client.correlator).2 = none) := by
  have ht := h.tracked
  have hended := ht.ended
  rw [hover] at hended
  cases hended with
  | notYet hleft => cases hleft
  | @once before behind _ hhistory _ hbehind =>
      refine ⟨before, behind, hhistory, fun ticket hticket => ?_⟩
      obtain ⟨position, spec, hgave⟩ := ht.gave ticket hticket
      -- a holder is told what the correlator has
      have hasked : ((Holder.new ticket).ask s.client.correlator).2 =
          s.client.correlator.answer? ticket := by
        have hfaithful := hgave.faithful.run (s.history.drop (position + 1))
        rw [← Correlator.run_append, List.take_append_drop, ← ht.correlator] at hfaithful
        exact hfaithful.ask.1
      refine ⟨position, spec, hgave, fun hlt => ?_, fun hle hquiet => ?_⟩
      · rw [hasked, ht.correlator, hhistory]
        rw [hhistory] at hgave
        exact hgave.answered hlt
      · rw [hasked, ht.correlator, hhistory]
        rw [hhistory] at hgave
        refine hgave.unanswered (Nat.lt_of_le_of_ne hle fun hsame => ?_) hbehind hquiet
        -- at this position the waits are ended, and nothing is registered
        have hregisters := hgave.registers
        rw [← hsame, List.getElem?_append_right (Nat.le_refl _), Nat.sub_self] at hregisters
        cases hregisters

/-- A command that is registered before the client is closed is answered by the close. -/
theorem settled_when_registered_in_time : ∃ s, Reaches .default ⟨.empty, .empty, .empty⟩ s ∧
    s.left = [] ∧ .returned (.ok (.scheduled ⟨0, 7, "deploy"⟩)) ∈ s.calls ∧
    ∃ answer, ((Holder.new ⟨0, 7, "deploy"⟩).ask s.client.correlator).2 = some answer := by
  obtain ⟨s, hs, hopen, hcorrelator, hcalls, hleft, hhistory⟩ := exists_acknowledged
  have hregistered := @Reaches.concludes _ _ _ hs 0 _ _ (by rw [hcalls]; rfl)
  rw [conclude_acknowledged rfl, hcalls, hcorrelator, hleft, hhistory] at hregistered
  have hclosed := hregistered.close rfl hopen
  refine ⟨_, hclosed, rfl, List.mem_cons_self, ?_⟩
  obtain ⟨before, behind, hsplit, hsettled⟩ := hclosed.settled_unless_late rfl
  obtain ⟨position, spec, hgave, hanswered, -⟩ := hsettled ⟨0, 7, "deploy"⟩ List.mem_cons_self
  have hfirst : position = 0 := by
    have hregisters := hgave.registers
    match position with
    | 0 => rfl
    | 1 | _ + 2 => cases hregisters
  have hbefore : before ≠ [] := by
    rintro rfl
    cases hsplit
  exact hanswered (hfirst ▸ List.length_pos_iff.mpr hbefore)

/-- A call may sit between its acknowledgement and the registration of the uuid while the client is
closed. It still gets a ticket, and the wait for its answer does not end although the close is over
and no call is left. -/
theorem close_misses_acknowledged :
    ¬∀ settings specs s, Reaches settings specs s → s.left = [] →
      (∀ call ∈ s.calls, ∃ result, call = .returned result) →
      ∀ ticket, .returned (.ok (.scheduled ticket)) ∈ s.calls →
        ∃ answer, ((Holder.new ticket).ask s.client.correlator).2 = some answer := by
  intro hsettled
  obtain ⟨s, hs, hopen, hcorrelator, hcalls, hleft, -⟩ := exists_acknowledged
  have hclosed := hs.close hleft hopen
  have hlate := @Reaches.concludes _ _ _ hclosed 0 _ _ (by rw [hcalls]; rfl)
  have hcancelled : s.client.close.correlator = s.client.correlator.cancelAll := by
    simp [Client.close, hopen]
  rw [conclude_acknowledged rfl, hcalls, hcancelled, hcorrelator] at hlate
  obtain ⟨answer, hanswer⟩ := hsettled _ _ _ hlate rfl
    (List.forall_mem_singleton.mpr ⟨_, rfl⟩) ⟨0, 7, "deploy"⟩ List.mem_cons_self
  -- the ticket waits in a correlator whose waits were ended before
  cases hanswer

end Shutdown

end GroundLink
