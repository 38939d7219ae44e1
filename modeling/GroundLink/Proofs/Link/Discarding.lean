import GroundLink.Proofs.Link.Dialogue

/-!
# What becomes of responses

Exchanges take responses from the queue: a new one empties it, and one that waits reads batch after
batch until it finds its response. `Ledger` notes for each response that was taken what became of
it, and `Reaches` lists what can happen while exchanges follow one another and responses of any kind
arrive; read them first.

Responses that are left from earlier exchanges are counted as discarded, and so are those in front
of the response in its batch. Those behind it are neither returned nor counted. `Balanced` is what
every step keeps; `responses_are_returned_or_counted` says what it comes to, and
`responses_can_be_overlooked` that the rest is not empty.
-/

namespace GroundLink

/-- What became of a response that an exchange took from the queue. -/
inductive Use where
  | returned
  /-- It was discarded and counted. -/
  | counted
  /-- It stood behind the response that was returned, in the same batch. -/
  | overlooked
deriving DecidableEq

/-- What becomes of a batch of responses. -/
def Exchange.uses (seq : UInt8) : List ResponseMessage → List (ResponseMessage × Use)
  | [] => []
  | response :: rest =>
    if response.seq = seq then (response, .returned) :: rest.map (·, .overlooked)
    else (response, .counted) :: uses seq rest

/-- A client whose exchanges follow one another, with what nobody but the proof sees. -/
structure Ledger where
  client : Client
  /-- The exchange that waits for its response. -/
  current : Option Exchange
  /-- The responses that the queue has accepted. -/
  accepted : List ResponseMessage
  /-- The responses that exchanges have taken from it. -/
  taken : List (ResponseMessage × Use)
  /-- The number of exchanges that have returned a response. -/
  answered : Nat

namespace Ledger

/-- The responses that were put to a use. -/
def count (d : Ledger) (use : Use) : Nat :=
  d.taken.countP (·.2 = use)

/-- Whether an exchange has returned a response, as a number. -/
def answers : Option (Except ResponseError ResponseMessage) → Nat
  | some (.ok _) => 1
  | some (.error _) | none => 0

/-- An exchange empties the queue of responses and sends its command. -/
def send (d : Ledger) (spec : CommandSpec) (body : Bytes) (time : Timestamp) (limit : Duration) :
    Ledger :=
  { d with
    client := (d.client.transmit spec body time limit).1
    current := (d.client.transmit spec body time limit).2.toOption
    taken := d.taken ++ d.client.responses.drain.2.map (·, .counted) }

/-- An exchange looks at a batch of responses. -/
def poll (d : Ledger) (x : Exchange) : Ledger :=
  { d with
    client := (d.client.poll x).1
    current := if (d.client.poll x).2.isSome then none else some x
    taken := d.taken ++ Exchange.uses x.seq d.client.responses.read.2
    answered := d.answered + answers (d.client.poll x).2 }

/-- A response is put into the queue, if there is room. -/
def arrive (d : Ledger) (response : ResponseMessage) : Ledger :=
  { d with
    client := { d.client with responses := (d.client.responses.enqueue response).1 }
    accepted := d.accepted ++
      if (d.client.responses.enqueue response).2 = .accepted then [response] else [] }

/-- What exchanges can lead to, one after another, while responses arrive and other stages run
between any two steps, among them the one that makes room for a command. -/
inductive Reaches (settings : Settings) (specs : Specs) : Ledger → Prop
  | start : Reaches settings specs ⟨.start settings specs, none, [], [], 0⟩
  | sends {d : Ledger} (h : Reaches settings specs d) (hidle : d.current = none)
      (spec : CommandSpec) (body : Bytes) (time : Timestamp) (limit : Duration) :
      Reaches settings specs (d.send spec body time limit)
  | polls {d : Ledger} (h : Reaches settings specs d) {x : Exchange}
      (hcurrent : d.current = some x) : Reaches settings specs (d.poll x)
  /-- The exchange has waited long enough. -/
  | expires {d : Ledger} (h : Reaches settings specs d) :
      Reaches settings specs { d with current := none }
  | arrives {d : Ledger} (h : Reaches settings specs d) (response : ResponseMessage) :
      Reaches settings specs (d.arrive response)
  /-- The queue is closed, in two halves. -/
  | refuses {d : Ledger} (h : Reaches settings specs d) :
      Reaches settings specs { d with
        client := { d.client with responses := d.client.responses.refuse } }
  | marks {d : Ledger} (h : Reaches settings specs d) :
      Reaches settings specs { d with
        client := { d.client with responses := d.client.responses.putStop } }
  /-- Another stage of the client runs. -/
  | elsewhere {d : Ledger} (h : Reaches settings specs d) {client : Client}
      (hresponses : client.responses = d.client.responses)
      (hdiscarded : client.discarded = d.client.discarded) :
      Reaches settings specs { d with client }

end Ledger

/-! ## One batch -/

namespace Exchange

variable {seq : UInt8} {batch : List ResponseMessage}

/-- Every answer of a batch has its use. -/
theorem map_uses (seq : UInt8) (batch : List ResponseMessage) :
    (uses seq batch).map Prod.fst = batch := by
  fun_induction uses seq batch with
  | case1 => rfl
  | case2 response rest => simp [Function.comp_def]
  | case3 response rest _ ih => rw [List.map_cons, ih]

/-- If a response is found, those in front of it are counted, and those behind it are overlooked. -/
theorem uses_of_found {before behind : List ResponseMessage} {response : ResponseMessage}
    (hbefore : ∀ other ∈ before, other.seq ≠ seq) (hseq : response.seq = seq) :
    uses seq (before ++ response :: behind) =
      before.map (·, .counted) ++ (response, .returned) :: behind.map (·, .overlooked) := by
  induction before with
  | nil => exact if_pos hseq
  | cons first rest ih =>
      obtain ⟨hfirst, hrest⟩ := List.forall_mem_cons.mp hbefore
      rw [List.cons_append, uses, if_neg hfirst, ih hrest]
      rfl

/-- If none is found, all are counted. -/
theorem uses_of_none (h : ∀ other ∈ batch, other.seq ≠ seq) :
    uses seq batch = batch.map (·, .counted) := by
  induction batch with
  | nil => rfl
  | cons first rest ih =>
      obtain ⟨hfirst, hrest⟩ := List.forall_mem_cons.mp h
      rw [uses, if_neg hfirst, ih hrest]
      rfl

/-- What is counted is what a poll counts. -/
theorem countP_uses_counted (seq : UInt8) (batch : List ResponseMessage) :
    (uses seq batch).countP (·.2 = .counted) = (select seq batch).1 := by
  fun_induction uses seq batch with
  | case1 => rfl
  | case2 response rest hseq => simp [select, hseq, List.countP_map, Function.comp_def]
  | case3 response rest hseq ih => simp [select, hseq, ih]

/-- A response is returned if a poll finds one. -/
theorem countP_uses_returned (seq : UInt8) (batch : List ResponseMessage) :
    (uses seq batch).countP (·.2 = .returned) = (select seq batch).2.toList.length := by
  fun_induction uses seq batch with
  | case1 => rfl
  | case2 response rest hseq => simp [select, hseq, List.countP_map, Function.comp_def]
  | case3 response rest hseq ih => simp [select, hseq, ih]

end Exchange

/-- To find the meaning of a response leaves the queue and the count alone. -/
theorem Client.conclude_frame (c : Client) (x : Exchange) (response : ResponseMessage) :
    (c.conclude x response).1.responses = c.responses ∧
      (c.conclude x response).1.discarded = c.discarded := by
  unfold conclude
  split
  case h_1 => exact ⟨rfl, rfl⟩
  case h_2 =>
    split
    case h_1 => exact ⟨rfl, rfl⟩
    case h_2 result _ =>
      split
      case isTrue => split <;> exact ⟨rfl, rfl⟩
      case isFalse =>
        cases result <;> cases response.scheduledUuid? <;> exact ⟨rfl, rfl⟩

/-! ## What every step keeps -/

namespace Ledger

variable {d : Ledger} {settings : Settings} {specs : Specs}

/-- What holds of every ledger. -/
structure Balanced (d : Ledger) : Prop where
  accepted : d.accepted = d.taken.map Prod.fst ++ d.client.responses.items
  discarded : d.client.discarded = d.count .counted
  answered : d.answered = d.count .returned

/-- A poll returns a response if one is found in the batch. -/
theorem answers_poll (c : Client) (x : Exchange) :
    answers (c.poll x).2 = (Exchange.select x.seq c.responses.read.2).2.toList.length := by
  unfold Client.poll
  dsimp only
  split
  case h_1 hfound =>
    rw [hfound]
    rfl
  case h_2 hnone =>
    rw [hnone]
    dsimp only
    split <;> rfl

/-- The account balances when a command is sent. -/
theorem Balanced.sends (h : d.Balanced) (spec : CommandSpec) (body : Bytes) (time : Timestamp)
    (limit : Duration) : (d.send spec body time limit).Balanced := by
  obtain ⟨hresponses, hdiscarded, -, -⟩ := d.client.transmit_spec spec body time limit
  refine ⟨?_, ?_, ?_⟩
  · show d.accepted = _ ++ Queue.items (d.client.transmit spec body time limit).1.responses
    rw [hresponses, h.accepted, d.client.responses.items_drain, send]
    simp [Function.comp_def]
  · show (d.client.transmit spec body time limit).1.discarded = _
    rw [hdiscarded, h.discarded, count, count, send, List.countP_append]
    simp [List.countP_map, Function.comp_def]
  · show d.answered = _
    rw [h.answered, count, count, send, List.countP_append]
    simp [List.countP_map, Function.comp_def]

/-- The account balances when a call looks for its answer. -/
theorem Balanced.polls (h : d.Balanced) (x : Exchange) : (d.poll x).Balanced := by
  have hclient := d.client.poll_fst x
  refine ⟨?_, ?_, ?_⟩
  · show d.accepted = _ ++ Queue.items (d.client.poll x).1.responses
    rw [hclient, h.accepted, d.client.responses.items_read, poll, List.map_append,
      Exchange.map_uses, List.append_assoc]
  · show (d.client.poll x).1.discarded = _
    rw [hclient, count, poll, List.countP_append, Exchange.countP_uses_counted, h.discarded]
    rfl
  · show d.answered + _ = _
    rw [answers_poll, count, poll, List.countP_append, Exchange.countP_uses_returned, h.answered]
    rfl

/-- The account balances when an answer arrives. -/
theorem Balanced.arrives (h : d.Balanced) (response : ResponseMessage) :
    (d.arrive response).Balanced := by
  refine ⟨?_, h.discarded, h.answered⟩
  show d.accepted ++ _ = _ ++ (d.client.responses.enqueue response).1.items
  rw [Queue.items_enqueue, h.accepted, List.append_assoc]
  rfl

/-- So it balances wherever calls and answers lead. -/
theorem Reaches.balanced (h : Reaches settings specs d) : d.Balanced := by
  induction h with
  | start => exact ⟨rfl, rfl, rfl⟩
  | sends _ _ spec body time limit ih => exact ih.sends spec body time limit
  | polls _ _ ih => exact ih.polls _
  | expires _ ih | refuses _ ih => exact { ih with }
  | arrives _ response ih => exact ih.arrives response
  | marks _ ih => exact { ih with accepted := ih.accepted.trans (by rw [Queue.items_putStop]) }
  | elsewhere _ hresponses hdiscarded ih =>
      refine { ih with accepted := ?_, discarded := hdiscarded.trans ih.discarded }
      rw [hresponses]
      exact ih.accepted

/-! ## Stages of the client

The steps of a ledger are taken by the stages of a client. -/

/-- A payload that is passed on brings the response that is in it, if there is room. -/
theorem Reaches.route (h : Reaches settings specs d) (payload : Bytes) :
    ∃ accepted, Reaches settings specs { d with client := d.client.route payload, accepted } := by
  unfold Client.route
  split
  case h_1 response _ =>
    cases hclosed : d.client.responses.closed with
    | true =>
        rw [Queue.write, if_pos hclosed]
        exact ⟨d.accepted, h.elsewhere rfl rfl⟩
    | false =>
        rw [Queue.write, if_neg (Bool.eq_false_iff.mp hclosed)]
        exact ⟨_, h.arrives response⟩
  case h_2 => exact ⟨d.accepted, h.elsewhere rfl rfl⟩
  case h_3 | h_4 => exact ⟨d.accepted, h⟩

/-- What a stage does for one item after another comes to steps if what it does for each one
does. -/
theorem Reaches.foldl {α : Type} {stage : Client → α → Client}
    (hstage : ∀ d, Reaches settings specs d → ∀ a,
      ∃ accepted, Reaches settings specs { d with client := stage d.client a, accepted })
    (h : Reaches settings specs d) (items : List α) :
    ∃ accepted, Reaches settings specs
      { d with client := items.foldl stage d.client, accepted } := by
  induction items generalizing d with
  | nil => exact ⟨d.accepted, h⟩
  | cons a rest ih =>
      obtain ⟨accepted, hone⟩ := hstage d h a
      exact ih hone

/-- What happens at the device is taken notice of. -/
theorem Reaches.handle (h : Reaches settings specs d) (event : DeviceEvent) :
    ∃ accepted, Reaches settings specs { d with client := d.client.handle event, accepted } := by
  have hdispatch (d : Ledger) (h : Reaches settings specs d) :
      ∃ accepted, Reaches settings specs { d with client := d.client.dispatch, accepted } := by
    have hread : Reaches settings specs { d with
        client := { d.client with
          raw := d.client.raw.read.1
          inbound := (d.client.inbound.pushAll d.client.raw.read.2).1 } } := h.elsewhere rfl rfl
    exact hread.foldl (fun _ h => h.route) _
  have hcorrelate (d : Ledger) (h : Reaches settings specs d) :
      ∃ accepted, Reaches settings specs { d with client := d.client.correlateAll, accepted } := by
    unfold Client.correlateAll
    split
    case h_1 => exact ⟨d.accepted, h⟩
    case h_2 => exact h.foldl (fun d h _ => ⟨d.accepted, h.elsewhere rfl rfl⟩) _
  unfold Client.handle
  split
  case isTrue =>
    cases event with
    | hangup => exact ⟨d.accepted, h.elsewhere rfl rfl⟩
    | takes =>
        obtain ⟨outbound, htaken⟩ := d.client.takeOutbound_eq
        exact ⟨d.accepted, h.elsewhere (by rw [htaken]) (by rw [htaken])⟩
    | bytes data =>
        refine h.foldl (fun d h piece => ?_) _
        have hreceived : Reaches settings specs { d with client := d.client.receive piece } :=
          h.elsewhere rfl rfl
        obtain ⟨_, hdispatched⟩ := hdispatch _ hreceived
        exact hcorrelate _ hdispatched
  case isFalse => exact ⟨d.accepted, h⟩

/-- An exchange waits for room for its command. -/
theorem Reaches.enter (h : Reaches settings specs d) (held : Option Bytes)
    (rounds : List (List DeviceEvent)) :
    ∃ accepted, Reaches settings specs
      { d with client := (d.client.enter held rounds).1, accepted } := by
  cases held with
  | none =>
      rw [Client.enter_none]
      exact ⟨d.accepted, h⟩
  | some bytes =>
      induction rounds generalizing d with
      | nil => exact ⟨d.accepted, h⟩
      | cons events rest ih =>
          obtain ⟨accepted, hhandled⟩ := h.foldl (fun _ h => h.handle) events
          obtain ⟨outbound, hresumed⟩ := (events.foldl Client.handle d.client).resume_eq bytes
          have hresumes : Reaches settings specs { d with
              client := ((events.foldl Client.handle d.client).resume bytes).1, accepted } :=
            hhandled.elsewhere (by rw [hresumed]) (by rw [hresumed])
          unfold Client.enter
          split
          case h_1 c hroom =>
            rw [hroom] at hresumes
            exact ⟨accepted, hresumes⟩
          case h_2 c hroom =>
            rw [hroom] at hresumes
            exact ih hresumes

/-- An exchange waits for its response, and is over. -/
theorem Reaches.await {x : Exchange} (h : Reaches settings specs d) (hcurrent : d.current = some x)
    (rounds : List (List DeviceEvent)) :
    ∃ d', Reaches settings specs d' ∧ d'.client = (d.client.await x rounds).1 ∧
      d'.current = none := by
  induction rounds generalizing d with
  | nil => exact ⟨_, h.expires, rfl, rfl⟩
  | cons events rest ih =>
      obtain ⟨accepted, hhandled⟩ := h.foldl (fun _ h => h.handle) events
      have hpolled := hhandled.polls hcurrent
      unfold Client.await
      split
      case h_1 c result hpoll =>
        rw [poll, hpoll] at hpolled
        exact ⟨_, hpolled, rfl, rfl⟩
      case h_2 c hpoll =>
        rw [poll, hpoll] at hpolled
        obtain ⟨d', hreached, hclient, hidle⟩ := ih hpolled rfl
        exact ⟨d', hreached, hclient, hidle⟩

/-- An exchange waits for its response, and looks at its meaning. -/
theorem Reaches.finish {x : Exchange} (h : Reaches settings specs d) (hcurrent : d.current = some x)
    (rounds : List (List DeviceEvent)) :
    ∃ d', Reaches settings specs d' ∧ d'.client = (d.client.finish x rounds).1 ∧
      d'.current = none := by
  obtain ⟨awaited, hawaited, hafter, hover⟩ := h.await hcurrent rounds
  unfold Client.finish
  split
  case h_1 c error hawait =>
    rw [hawait] at hafter
    exact ⟨awaited, hawaited, hafter, hover⟩
  case h_2 c response hawait =>
    obtain rfl : awaited.client = c := by rw [hafter, hawait]
    obtain ⟨hresponses, hdiscarded⟩ := awaited.client.conclude_frame x response
    exact ⟨_, hawaited.elsewhere hresponses hdiscarded, rfl, hover⟩

/-- A command is sent, if there is nothing wrong with it. -/
theorem Reaches.begin (h : Reaches settings specs d) (hidle : d.current = none)
    (request : Request) :
    ∃ d', Reaches settings specs d' ∧ d'.client = (d.client.begin request).1 ∧
      d'.current = (d.client.begin request).2.toOption := by
  unfold Client.begin
  split
  case h_1 => exact ⟨d, h, rfl, hidle⟩
  case h_2 =>
    split
    case h_1 => exact ⟨d, h, rfl, hidle⟩
    case h_2 =>
      split
      case isTrue => exact ⟨d, h, rfl, hidle⟩
      case isFalse => exact ⟨_, h.sends hidle _ _ _ _, rfl, rfl⟩

/-- A whole call sends a command and waits for its response, unless it still waits to be sent. -/
theorem Reaches.call (h : Reaches settings specs d) (hidle : d.current = none) (request : Request)
    (events : List (List DeviceEvent)) :
    ∃ d', Reaches settings specs d' ∧ d'.client = (d.client.send request events).1 ∧
      d'.current = none := by
  obtain ⟨begun, hbegun, hclient, hcurrent⟩ := h.begin hidle request
  unfold Client.send
  split
  case h_1 c error hbegin =>
    rw [hbegin] at hclient hcurrent
    exact ⟨begun, hbegun, hclient, hcurrent⟩
  case h_2 c x hbegin =>
    rw [hbegin] at hclient hcurrent
    obtain ⟨accepted, hentered⟩ := hbegun.enter x.held events
    rw [hclient] at hentered
    split
    case h_1 c' henter =>
      rw [henter] at hentered
      exact ⟨_, hentered.expires, rfl, rfl⟩
    case h_2 c' rest henter =>
      rw [henter] at hentered
      exact hentered.finish hcurrent rest

/-! ## All responses -/

/-- Each answer is returned, counted or overlooked. -/
theorem length_eq_counts (items : List (ResponseMessage × Use)) :
    items.length = items.countP (·.2 = .returned) + items.countP (·.2 = .counted) +
      items.countP (·.2 = .overlooked) := by
  induction items with
  | nil => rfl
  | cons item rest ih =>
      obtain ⟨response, use⟩ := item
      rw [List.length_cons, ih, List.countP_cons, List.countP_cons, List.countP_cons]
      cases use <;> simp <;> omega

/-- What exchanges take from the queue is returned or counted, except what stands behind a response
that is returned, in the same batch. Whole calls are among the steps for which this holds. -/
theorem Reaches.responses_are_returned_or_counted (h : Reaches settings specs d) :
    d.accepted = d.taken.map Prod.fst ++ d.client.responses.items ∧
    d.taken.length = d.answered + d.client.discarded + d.count .overlooked ∧
    (d.taken.length = d.answered + d.client.discarded ↔ ∀ item ∈ d.taken, item.2 ≠ .overlooked) ∧
    (∀ x ∈ d.current, ∀ response, (d.client.poll x).2 = some (.ok response) →
      ∃ before behind, d.client.responses.read.2 = before ++ response :: behind ∧
        response.seq = x.seq ∧ (∀ other ∈ before, other.seq ≠ x.seq) ∧
        (d.poll x).taken = d.taken ++ (before.map (·, .counted) ++
          (response, .returned) :: behind.map (·, .overlooked))) ∧
    (∀ x ∈ d.current, (∀ response, (d.client.poll x).2 ≠ some (.ok response)) →
      (d.poll x).taken = d.taken ++ d.client.responses.read.2.map (·, .counted)) ∧
    (d.current = none → ∀ request events, ∃ d', Reaches settings specs d' ∧
      d'.client = (d.client.send request events).1 ∧ d'.current = none) := by
  have hbalanced := h.balanced
  have hsum : d.taken.length = d.answered + d.client.discarded + d.count .overlooked := by
    rw [hbalanced.answered, hbalanced.discarded]
    exact length_eq_counts d.taken
  refine ⟨hbalanced.accepted, hsum, ?_, fun x _ response hpoll => ?_, fun x _ hnone => ?_, h.call⟩
  · have hnothing : d.count .overlooked = 0 ↔ ∀ item ∈ d.taken, item.2 ≠ .overlooked := by
      rw [count, List.countP_eq_zero]
      simp
    rw [← hnothing]
    omega
  · obtain ⟨before, behind, hbatch, -, hseq, hbefore⟩ :=
      Exchange.select_some (Client.poll_ok_iff.mp hpoll)
    refine ⟨before, behind, hbatch, hseq, hbefore, ?_⟩
    rw [poll, hbatch, Exchange.uses_of_found hbefore hseq]
  · have hselect : (Exchange.select x.seq d.client.responses.read.2).2 = none := by
      rw [Option.eq_none_iff_forall_ne_some]
      exact fun response hfound => hnone response (Client.poll_ok_iff.mpr hfound)
    rw [poll, Exchange.uses_of_none (Exchange.select_none hselect).2]

/-- The first command of a client was sent, and nothing has come yet. -/
theorem exists_waiting : ∃ settings specs d, ∃ x : Exchange, Reaches settings specs d ∧
    d.current = some x ∧ x.seq = 1 ∧ d.client.responses = .new 16 true ∧ d.taken = [] := by
  let spec : CommandSpec := ⟨"ping", 1, "", .empty, .none⟩
  let x : Exchange := ⟨spec, .immediate, ⟨0⟩, 1, none⟩
  have hstart : Reaches .default ⟨.empty, .empty, .empty⟩ _ := .start
  have hsent := hstart.sends rfl spec [] .immediate ⟨0⟩
  exact ⟨.default, ⟨.empty, .empty, .empty⟩, _, x, hsent, rfl, rfl,
    (Client.transmit_spec _ _ _ _ _).1, rfl⟩

/-- Two responses that come one right after the other are in one batch. -/
theorem taken_of_pair (hqueue : d.client.responses = .new 16 true) (htaken : d.taken = [])
    (first second : ResponseMessage) (x : Exchange) :
    (((d.arrive first).arrive second).poll x).taken = Exchange.uses x.seq [first, second] := by
  have hbatch : ((d.arrive first).arrive second).client.responses.read.2 = [first, second] := by
    show ((d.client.responses.enqueue first).1.enqueue second).1.read.2 = _
    rw [hqueue]
    rfl
  show d.taken ++ _ = _
  rw [hbatch, htaken, List.nil_append]

/-- Another response comes before the one that the exchange waits for. It is counted. -/
theorem responses_are_counted_in_front : ∃ settings specs d, Reaches settings specs d ∧
    d.taken = [(⟨9, [0]⟩, .counted), (⟨1, [0, 7]⟩, .returned)] ∧
      d.taken.length = d.answered + d.client.discarded := by
  obtain ⟨settings, specs, d, x, h, hcurrent, hseq, hqueue, htaken⟩ := exists_waiting
  have hpolled := ((h.arrives ⟨9, [0]⟩).arrives ⟨1, [0, 7]⟩).polls hcurrent
  have huses : (((d.arrive ⟨9, [0]⟩).arrive ⟨1, [0, 7]⟩).poll x).taken =
      [(⟨9, [0]⟩, .counted), (⟨1, [0, 7]⟩, .returned)] := by
    rw [taken_of_pair hqueue htaken, hseq]
    rfl
  obtain ⟨-, -, hiff, -⟩ := hpolled.responses_are_returned_or_counted
  refine ⟨settings, specs, _, hpolled, huses, hiff.mpr ?_⟩
  rw [huses]
  decide

/-- Another response comes right behind the one that the exchange waits for. It is neither returned
nor counted. -/
theorem responses_can_be_overlooked :
    ¬∀ settings specs d, Reaches settings specs d →
      d.taken.length = d.answered + d.client.discarded := by
  intro hall
  obtain ⟨settings, specs, d, x, h, hcurrent, hseq, hqueue, htaken⟩ := exists_waiting
  have hpolled := ((h.arrives ⟨1, [0, 7]⟩).arrives ⟨9, [0]⟩).polls hcurrent
  have hequal := hall settings specs _ hpolled
  rw [hpolled.balanced.answered, hpolled.balanced.discarded, count, count,
    taken_of_pair hqueue htaken, hseq] at hequal
  exact absurd hequal (by decide)

end Ledger

end GroundLink
