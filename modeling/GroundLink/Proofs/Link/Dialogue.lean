import GroundLink.Link.Exchange
import GroundLink.Proofs.Link.Queue

/-!
# Whose response an exchange returns

Sequence numbers are bytes and come back after 256 exchanges, so a response that is very late could
be taken for that of another command. `Reaches` lists what can happen to a client while exchanges
follow one another; read it first. It labels every response in the queue with the exchange whose
command it answers, and lets no response come later than 256 exchanges after its own. `Aligned` is
what all of this keeps, and `response_is_own` draws the conclusion: what an exchange returns is the
answer to its own command.
-/

namespace GroundLink

/-- A client, with what nobody but the computer knows: which commands the queued responses
answer. -/
structure Dialogue where
  client : Client
  /-- What each exchange sent, oldest first; nothing if its command did not get out. -/
  sent : List (Option Exchange)
  /-- The exchange that waits for its response. -/
  current : Option Exchange
  /-- The queued responses, each with the number of the exchange that sent its command. -/
  queued : List (Nat × ResponseMessage)

namespace Dialogue

/-- A response answers the command of an exchange, repeats its sequence number, and does not come
after the 256th exchange behind it has emptied the queue. -/
structure Answers (sent : List (Option Exchange)) (number : Nat) (response : ResponseMessage) :
    Prop where
  repeats : ∃ x, sent[number]? = some (some x) ∧ response.seq = x.seq
  in_time : sent.length ≤ number + 256

/-- An exchange empties the queue of responses and sends its command. -/
def send (d : Dialogue) (spec : CommandSpec) (body : Bytes) (time : Timestamp) (limit : Duration) :
    Dialogue where
  client := (d.client.transmit spec body time limit).1
  sent := d.sent ++ [(d.client.transmit spec body time limit).2.toOption]
  current := (d.client.transmit spec body time limit).2.toOption
  queued := d.queued.drop d.client.responses.drain.2.length

/-- An exchange looks at a batch of responses. -/
def poll (d : Dialogue) (x : Exchange) : Dialogue :=
  { d with
    client := (d.client.poll x).1
    current := if (d.client.poll x).2.isSome then none else some x
    queued := d.queued.drop d.client.responses.read.2.length }

/-- A response is put into the queue, if there is room. -/
def arrive (d : Dialogue) (number : Nat) (response : ResponseMessage) : Dialogue :=
  { d with
    client := { d.client with responses := (d.client.responses.enqueue response).1 }
    queued := d.queued ++
      if (d.client.responses.enqueue response).2 = .accepted then [(number, response)] else [] }

/-- What exchanges can lead to, one after another, while the computer answers what was sent and
other stages run between any two steps. An exchange may look for its response before there was room
for its command; that it never does so is not needed here. -/
inductive Reaches (settings : Settings) (specs : Specs) : Dialogue → Prop
  | start : Reaches settings specs ⟨.start settings specs, [], none, []⟩
  | sends {d : Dialogue} (h : Reaches settings specs d) (hidle : d.current = none)
      (spec : CommandSpec) (body : Bytes) (time : Timestamp) (limit : Duration) :
      Reaches settings specs (d.send spec body time limit)
  | polls {d : Dialogue} (h : Reaches settings specs d) {x : Exchange}
      (hcurrent : d.current = some x) : Reaches settings specs (d.poll x)
  /-- The exchange has waited long enough. -/
  | expires {d : Dialogue} (h : Reaches settings specs d) :
      Reaches settings specs { d with current := none }
  | answers {d : Dialogue} (h : Reaches settings specs d) {number : Nat}
      {response : ResponseMessage} (hanswers : Answers d.sent number response) :
      Reaches settings specs (d.arrive number response)
  /-- The queue is closed, in two halves. -/
  | refuses {d : Dialogue} (h : Reaches settings specs d) :
      Reaches settings specs { d with
        client := { d.client with responses := d.client.responses.refuse } }
  | marks {d : Dialogue} (h : Reaches settings specs d) :
      Reaches settings specs { d with
        client := { d.client with responses := d.client.responses.putStop } }
  /-- Another stage of the client runs. -/
  | elsewhere {d : Dialogue} (h : Reaches settings specs d) {client : Client}
      (hseq : client.seq = d.client.seq) (hresponses : client.responses = d.client.responses) :
      Reaches settings specs { d with client }

end Dialogue

/-! ## One exchange -/

namespace Exchange

/-- A response that is found is the first with the sequence number. -/
theorem select_some {seq : UInt8} {batch : List ResponseMessage} {response : ResponseMessage}
    (h : (select seq batch).2 = some response) :
    ∃ before behind, batch = before ++ response :: behind ∧
      before.length = (select seq batch).1 ∧ response.seq = seq ∧
      ∀ other ∈ before, other.seq ≠ seq := by
  fun_induction select seq batch with
  | case1 => cases h
  | case2 first rest hseq =>
      obtain rfl : first = response := Option.some.inj h
      exact ⟨[], rest, rfl, rfl, hseq, List.forall_mem_nil _⟩
  | case3 first rest hseq others found hselect ih =>
      rw [hselect] at ih
      obtain ⟨before, behind, rfl, hlength, hfound, hbefore⟩ := ih h
      refine ⟨first :: before, behind, rfl, congrArg (· + 1) hlength, hfound, ?_⟩
      exact List.forall_mem_cons.mpr ⟨hseq, hbefore⟩

/-- If no response is found, none has the sequence number. -/
theorem select_none {seq : UInt8} {batch : List ResponseMessage}
    (h : (select seq batch).2 = none) :
    (select seq batch).1 = batch.length ∧ ∀ other ∈ batch, other.seq ≠ seq := by
  fun_induction select seq batch with
  | case1 => exact ⟨rfl, List.forall_mem_nil _⟩
  | case2 => cases h
  | case3 first rest hseq others found hselect ih =>
      rw [hselect] at ih
      obtain ⟨hlength, hrest⟩ := ih h
      exact ⟨congrArg (· + 1) hlength, List.forall_mem_cons.mpr ⟨hseq, hrest⟩⟩

end Exchange

namespace Client

variable {c : Client} {x : Exchange}

/-- A poll takes one batch from the queue, and counts what stands in front of the response. -/
theorem poll_fst (c : Client) (x : Exchange) :
    (c.poll x).1 = { c with
      responses := c.responses.read.1
      discarded := c.discarded + (Exchange.select x.seq c.responses.read.2).1 } := by
  unfold poll
  dsimp only
  split <;> rfl

/-- A poll gives the response that is found in the batch. -/
theorem poll_ok_iff {response : ResponseMessage} :
    (c.poll x).2 = some (.ok response) ↔
      (Exchange.select x.seq c.responses.read.2).2 = some response := by
  unfold poll
  dsimp only
  split
  case h_1 found hfound =>
    rw [hfound]
    exact ⟨fun h => congrArg some (Except.ok.inj (Option.some.inj h)),
      fun h => congrArg (some ∘ Except.ok) (Option.some.inj h)⟩
  case h_2 hnone =>
    rw [hnone]
    refine ⟨fun h => ?_, nofun⟩
    split at h <;> cases h

/-- Whether or not the command gets out, the queue is emptied, what was in it is counted, and one
sequence number is used up. -/
theorem transmit_spec (c : Client) (spec : CommandSpec) (body : Bytes) (time : Timestamp)
    (limit : Duration) :
    (c.transmit spec body time limit).1.responses = c.responses.drain.1 ∧
    (c.transmit spec body time limit).1.discarded =
      c.discarded + c.responses.drain.2.length ∧
    (c.transmit spec body time limit).1.seq = c.seq + 1 ∧
    ∀ x ∈ (c.transmit spec body time limit).2.toOption, x.seq = c.seq + 1 := by
  unfold transmit discardStale
  dsimp only
  split
  case h_1 => exact ⟨rfl, rfl, rfl, nofun⟩
  case h_2 =>
    split
    case h_1 | h_2 | h_3 =>
      refine ⟨rfl, rfl, rfl, ?_⟩
      rintro _ ⟨⟩
      rfl
    case h_4 => exact ⟨rfl, rfl, rfl, nofun⟩

/-- To take what is to be written changes nothing but the queue that it is taken from. -/
theorem takeOutbound_eq (c : Client) : ∃ outbound, c.takeOutbound.1 = { c with outbound } := by
  unfold takeOutbound
  split
  case isTrue => exact ⟨_, rfl⟩
  case isFalse => exact ⟨c.outbound, rfl⟩

/-- An exchange that holds nothing does not wait for room. -/
theorem enter_none (c : Client) (rounds : List (List DeviceEvent)) :
    c.enter none rounds = (c, some rounds) := by
  unfold enter
  rfl

/-- To put in what had to wait changes nothing but this queue, either. -/
theorem resume_eq (c : Client) (bytes : Bytes) :
    ∃ outbound, (c.resume bytes).1 = { c with outbound } := by
  unfold resume
  split
  case h_1 => exact ⟨c.outbound, rfl⟩
  case h_2 => exact ⟨_, rfl⟩

end Client

/-! ## All exchanges -/

namespace Dialogue

/-- What holds of every dialogue. -/
structure Aligned (d : Dialogue) : Prop where
  /-- The labels are those of the queue. -/
  queued : d.queued.map Prod.snd = d.client.responses.items
  /-- Sequence numbers count the exchanges. -/
  seq : d.client.seq = UInt8.ofNat d.sent.length
  sent : ∀ number x, d.sent[number]? = some (some x) → x.seq = UInt8.ofNat (number + 1)
  /-- The exchange that waits is the last one. -/
  current : ∀ x ∈ d.current, ∃ earlier, d.sent = earlier ++ [some x]
  repeats : ∀ item ∈ d.queued, ∃ x, d.sent[item.1]? = some (some x) ∧ item.2.seq = x.seq
  /-- Until the end of the queue is found, no response in it is too old. -/
  in_time : d.client.responses.ended = false → ∀ item ∈ d.queued, d.sent.length ≤ item.1 + 256

variable {d : Dialogue} {settings : Settings} {specs : Specs}

/-- The answers that are thrown away are the first of those that are queued. -/
theorem Aligned.drained (h : d.Aligned) :
    (d.queued.take d.client.responses.drain.2.length).map Prod.snd =
        d.client.responses.drain.2 ∧
      (d.queued.drop d.client.responses.drain.2.length).map Prod.snd =
        d.client.responses.drain.1.items :=
  Queue.labelled_append (h.queued.trans d.client.responses.items_drain)

/-- The answers that are read are the first of those that are queued. -/
theorem Aligned.seen (h : d.Aligned) :
    (d.queued.take d.client.responses.read.2.length).map Prod.snd = d.client.responses.read.2 ∧
      (d.queued.drop d.client.responses.read.2.length).map Prod.snd =
        d.client.responses.read.1.items :=
  Queue.labelled_append (h.queued.trans d.client.responses.items_read)

/-- An exchange begins with an empty queue, or with one that gives nothing any more. -/
theorem Aligned.sends (h : d.Aligned) (spec : CommandSpec) (body : Bytes) (time : Timestamp)
    (limit : Duration) :
    (d.send spec body time limit).Aligned := by
  obtain ⟨hresponses, -, hseq, hsent⟩ := d.client.transmit_spec spec body time limit
  have hcount : d.client.seq + 1 = UInt8.ofNat (d.sent.length + 1) := by
    rw [h.seq, UInt8.ofNat_add]
    rfl
  refine ⟨?_, ?_, ?_, ?_, ?_, ?_⟩
  · show _ = Queue.items (d.client.transmit spec body time limit).1.responses
    rw [hresponses]
    exact h.drained.2
  · show (d.client.transmit spec body time limit).1.seq = UInt8.ofNat (d.sent ++ [_]).length
    rw [hseq, hcount, List.length_append]
    rfl
  · -- an earlier exchange has its number already, and the new one has the next
    intro number x hx
    change (d.sent ++ [_])[number]? = _ at hx
    rcases Nat.lt_trichotomy number d.sent.length with hlt | rfl | hlt
    · rw [List.getElem?_append_left hlt] at hx
      exact h.sent number x hx
    · rw [List.getElem?_concat_length] at hx
      rw [hsent x (Option.some.inj hx), hcount]
    · rw [List.getElem?_eq_none (by rw [List.length_append]; exact hlt)] at hx
      cases hx
  · intro x hx
    exact ⟨d.sent, congrArg (d.sent ++ [·]) hx⟩
  · intro item hitem
    obtain ⟨x, hx, hrepeats⟩ := h.repeats item (List.mem_of_mem_drop hitem)
    obtain ⟨hlt, -⟩ := List.getElem?_eq_some_iff.mp hx
    exact ⟨x, (List.getElem?_append_left hlt).trans hx, hrepeats⟩
  · -- one more exchange would make old responses too old, but none is left
    intro hended item hitem
    change (d.client.transmit spec body time limit).1.responses.ended = false at hended
    rw [hresponses] at hended
    have hitems := h.drained.2.trans (d.client.responses.drain_items hended)
    have hempty := List.map_eq_nil_iff.mp hitems
    change item ∈ d.queued.drop _ at hitem
    rw [hempty] at hitem
    cases hitem

/-- The records stay aligned when a call looks for its answer. -/
theorem Aligned.polls (h : d.Aligned) {x : Exchange} (hcurrent : d.current = some x) :
    (d.poll x).Aligned := by
  unfold poll
  rw [Client.poll_fst]
  refine ⟨h.seen.2, h.seq, h.sent, ?_, ?_, ?_⟩
  · intro y hy
    refine h.current y ?_
    rw [hcurrent]
    split at hy
    case isTrue => cases hy
    case isFalse => exact hy
  · exact fun item hitem => h.repeats item (List.mem_of_mem_drop hitem)
  · exact fun hended item hitem =>
      h.in_time (Queue.ended_of_read hended) item (List.mem_of_mem_drop hitem)

/-- The records stay aligned when an answer arrives. -/
theorem Aligned.answers (h : d.Aligned) {number : Nat} {response : ResponseMessage}
    (hanswers : Answers d.sent number response) : (d.arrive number response).Aligned := by
  have hmem : ∀ item ∈ (d.arrive number response).queued,
      item ∈ d.queued ∨ item = (number, response) := by
    intro item hitem
    refine (List.mem_append.mp hitem).imp_right fun hitem => ?_
    split at hitem
    case isTrue => exact List.mem_singleton.mp hitem
    case isFalse => cases hitem
  refine ⟨?_, h.seq, h.sent, h.current, ?_, ?_⟩
  · show (d.queued ++ _).map _ = (d.client.responses.enqueue response).1.items
    rw [Queue.items_enqueue, List.map_append, h.queued]
    split <;> rfl
  · intro item hitem
    rcases hmem item hitem with hitem | rfl
    · exact h.repeats item hitem
    · exact hanswers.repeats
  · intro hended item hitem
    rcases hmem item hitem with hitem | rfl
    · exact h.in_time ((Queue.enqueue_ended _ _).symm.trans hended) item hitem
    · exact hanswers.in_time

/-- At the start there are no records. -/
theorem start_aligned (settings : Settings) (specs : Specs) :
    Aligned ⟨.start settings specs, [], none, []⟩ where
  queued := rfl
  seq := rfl
  sent := nofun
  current := nofun
  repeats := List.forall_mem_nil _
  in_time _ := List.forall_mem_nil _

/-- So they are aligned wherever calls and answers lead. -/
theorem Reaches.aligned (h : Reaches settings specs d) : d.Aligned := by
  induction h with
  | start => exact start_aligned settings specs
  | sends _ _ spec body time limit ih => exact ih.sends spec body time limit
  | polls _ hcurrent ih => exact ih.polls hcurrent
  | expires _ ih => exact { ih with current := nofun }
  | answers _ hanswers ih => exact ih.answers hanswers
  | refuses _ ih => exact { ih with }
  | marks _ ih =>
      exact { ih with
        queued := ih.queued.trans (Queue.items_putStop _).symm
        in_time := fun hended => ih.in_time ((Queue.putStop_ended _).symm.trans hended) }
  | elsewhere _ hseq hresponses ih =>
      refine { ih with queued := ?_, seq := hseq.trans ih.seq, in_time := ?_ }
      · rw [hresponses]
        exact ih.queued
      · rw [hresponses]
        exact ih.in_time

/-! ## Stages of the client

The steps of a dialogue are taken by the stages of a client. -/

/-- A payload that is passed on brings the response that is in it, if there is room. -/
theorem Reaches.route (h : Reaches settings specs d) {number : Nat} {payload : Bytes}
    (hanswers : ∀ response, Message.decode payload = .ok (.response response) →
      Answers d.sent number response) :
    ∃ arrived : List (Nat × ResponseMessage),
      (∀ item ∈ arrived, item.1 = number ∧ Message.decode payload = .ok (.response item.2)) ∧
      Reaches settings specs
        { d with client := d.client.route payload, queued := d.queued ++ arrived } := by
  unfold Client.route
  split
  case h_1 response hdecode =>
    cases hclosed : d.client.responses.closed with
    | true =>
        refine ⟨[], List.forall_mem_nil _, ?_⟩
        rw [Queue.write, if_pos hclosed, List.append_nil]
        exact h.elsewhere rfl rfl
    | false =>
        have hopen : ¬d.client.responses.closed = true := by rw [hclosed]; decide
        have hstep := h.answers (hanswers response hdecode)
        rw [Queue.write, if_neg hopen]
        refine ⟨_, ?_, hstep⟩
        intro item hitem
        split at hitem
        case isTrue =>
          rw [List.mem_singleton.mp hitem]
          exact ⟨rfl, hdecode⟩
        case isFalse => cases hitem
  case h_2 =>
    refine ⟨[], List.forall_mem_nil _, ?_⟩
    rw [List.append_nil]
    exact h.elsewhere rfl rfl
  case h_3 | h_4 =>
    refine ⟨[], List.forall_mem_nil _, ?_⟩
    rw [List.append_nil]
    exact h

/-- Payloads that are passed on one after another bring the responses that are in them. -/
theorem Reaches.route_all (labelled : List (Nat × Bytes)) (h : Reaches settings specs d)
    (hanswers : ∀ item ∈ labelled, ∀ response,
      Message.decode item.2 = .ok (.response response) → Answers d.sent item.1 response) :
    ∃ arrived : List (Nat × ResponseMessage),
      (∀ item ∈ arrived, ∃ payload, (item.1, payload) ∈ labelled ∧
        Message.decode payload = .ok (.response item.2)) ∧
      Reaches settings specs { d with
        client := (labelled.map Prod.snd).foldl Client.route d.client
        queued := d.queued ++ arrived } := by
  induction labelled generalizing d with
  | nil =>
      refine ⟨[], List.forall_mem_nil _, ?_⟩
      rw [List.append_nil]
      exact h
  | cons first rest ih =>
      obtain ⟨hfirst, hrest⟩ := List.forall_mem_cons.mp hanswers
      obtain ⟨one, hone, hstep⟩ := h.route hfirst
      obtain ⟨more, hmore, hsteps⟩ := ih hstep hrest
      refine ⟨one ++ more, List.forall_mem_append.mpr ⟨?_, ?_⟩, ?_⟩
      · intro item hitem
        obtain ⟨hnumber, hdecode⟩ := hone item hitem
        exact ⟨first.2, hnumber ▸ List.mem_cons_self, hdecode⟩
      · intro item hitem
        obtain ⟨payload, hpayload, hdecode⟩ := hmore item hitem
        exact ⟨payload, List.mem_cons_of_mem _ hpayload, hdecode⟩
      · rw [List.append_assoc] at hsteps
        exact hsteps

/-- The frames that are found in what was received are passed on. -/
theorem Reaches.dispatch (labelled : List (Nat × Bytes)) (h : Reaches settings specs d)
    (hframes : (d.client.inbound.pushAll d.client.raw.read.2).2.frames = labelled.map Prod.snd)
    (hanswers : ∀ item ∈ labelled, ∀ response,
      Message.decode item.2 = .ok (.response response) → Answers d.sent item.1 response) :
    ∃ arrived : List (Nat × ResponseMessage),
      (∀ item ∈ arrived, ∃ payload, (item.1, payload) ∈ labelled ∧
        Message.decode payload = .ok (.response item.2)) ∧
      Reaches settings specs
        { d with client := d.client.dispatch, queued := d.queued ++ arrived } := by
  have hread : Reaches settings specs { d with
      client := { d.client with
        raw := d.client.raw.read.1
        inbound := (d.client.inbound.pushAll d.client.raw.read.2).1 } } := h.elsewhere rfl rfl
  obtain ⟨arrived, harrived, hsteps⟩ := hread.route_all labelled hanswers
  refine ⟨arrived, harrived, ?_⟩
  rw [← hframes] at hsteps
  exact hsteps

/-- The client is closed. -/
theorem Reaches.close (h : Reaches settings specs d) :
    Reaches settings specs { d with client := d.client.close } := by
  unfold Client.close
  split
  case isTrue => exact h
  case isFalse =>
    by_cases hclosed : d.client.responses.closed = true
    · exact h.elsewhere rfl (if_pos hclosed)
    · exact h.refuses.marks.elsewhere rfl (if_neg hclosed)

/-- What a wait returns was found by a poll of the dialogue, if the dialogue goes on while the
client handles what happens at the device. -/
theorem Reaches.await {x : Exchange} {c : Client} {response : ResponseMessage}
    {rounds : List (List DeviceEvent)} (h : Reaches settings specs d)
    (hcurrent : d.current = some x)
    (hhandle : ∀ events ∈ rounds, ∀ d', Reaches settings specs d' → d'.sent = d.sent →
      ∃ queued, Reaches settings specs
        { d' with client := events.foldl Client.handle d'.client, queued })
    (hawait : d.client.await x rounds = (c, .ok response)) :
    ∃ d', Reaches settings specs d' ∧ d'.current = some x ∧ d'.sent = d.sent ∧
      d'.client.poll x = (c, some (.ok response)) := by
  induction rounds generalizing d with
  | nil => cases hawait
  | cons events rest ih =>
      obtain ⟨hfirst, hrest⟩ := List.forall_mem_cons.mp hhandle
      obtain ⟨queued, hhandled⟩ := hfirst d h rfl
      unfold Client.await at hawait
      split at hawait
      case h_1 polled result hpoll =>
        obtain ⟨rfl, rfl⟩ := Prod.mk.inj hawait
        exact ⟨_, hhandled, hcurrent, rfl, hpoll⟩
      case h_2 polled hpoll =>
        have hpolled := hhandled.polls hcurrent
        rw [Dialogue.poll, hpoll] at hpolled
        obtain ⟨d', hreached, hwaits, hsent, hfound⟩ := ih hpolled rfl hrest hawait
        exact ⟨d', hreached, hwaits, hsent, hfound⟩

/-! ## The response of an exchange -/

/-- In a queue whose end was not found, only the answer to the last exchange has its sequence
number. -/
theorem Aligned.own_iff (h : d.Aligned) {x : Exchange} {earlier : List (Option Exchange)}
    (hsent : d.sent = earlier ++ [some x]) (hopen : d.client.responses.ended = false)
    {item : Nat × ResponseMessage} (hitem : item ∈ d.queued) :
    item.2.seq = x.seq ↔ item.1 = earlier.length := by
  have hlast : d.sent[earlier.length]? = some (some x) := by
    rw [hsent]
    exact List.getElem?_concat_length
  obtain ⟨y, hy, hrepeats⟩ := h.repeats item hitem
  constructor
  · intro hsame
    -- both numbers are in a window of 256, and the bytes agree
    have hbyte : UInt8.ofNat (item.1 + 1) = UInt8.ofNat (earlier.length + 1) := by
      rw [← h.sent item.1 y hy, ← h.sent earlier.length x hlast, ← hrepeats, hsame]
    have hmod := congrArg UInt8.toNat hbyte
    rw [UInt8.toNat_ofNat', UInt8.toNat_ofNat'] at hmod
    have hlength : d.sent.length = earlier.length + 1 := by
      rw [hsent, List.length_append]
      rfl
    have hlt := (List.getElem?_eq_some_iff.mp hy).1
    have htime := h.in_time hopen item hitem
    omega
  · intro hsame
    rw [hsame, hlast] at hy
    obtain rfl : x = y := Option.some.inj (Option.some.inj hy)
    exact hrepeats

/-- Of the responses that a poll sees, only the answer to the exchange has its sequence number. -/
theorem Aligned.seen_own_iff (h : d.Aligned) {x : Exchange} {earlier : List (Option Exchange)}
    (hsent : d.sent = earlier ++ [some x]) :
    ∀ item ∈ d.queued.take d.client.responses.read.2.length,
      (item.2.seq = x.seq ↔ item.1 = earlier.length) := by
  intro item hitem
  cases hended : d.client.responses.ended with
  | false => exact h.own_iff hsent hended (List.mem_of_mem_take hitem)
  | true =>
      rw [Queue.read_of_ended hended] at hitem
      cases hitem

/-- An exchange returns the answer to its own command and nothing else; it discards the other
responses that it sees in front of it, and those that are left from earlier exchanges. -/
theorem Reaches.response_is_own (h : Reaches settings specs d) :
    (∀ x ∈ d.current, ∃ earlier, d.sent = earlier ++ [some x] ∧
      let seen := d.queued.take d.client.responses.read.2.length
      seen.map Prod.snd = d.client.responses.read.2 ∧
      (d.client.poll x).1.responses.items = (d.queued.drop seen.length).map Prod.snd ∧
      (∀ response, (d.client.poll x).2 = some (.ok response) →
        ∃ before behind, seen = before ++ (earlier.length, response) :: behind ∧
          (∀ other ∈ before, other.1 ≠ earlier.length) ∧
          (d.client.poll x).1.discarded = d.client.discarded + before.length) ∧
      ((∀ response, (d.client.poll x).2 ≠ some (.ok response)) →
        (∀ other ∈ seen, other.1 ≠ earlier.length) ∧
        (d.client.poll x).1.discarded = d.client.discarded + seen.length)) ∧
    ∀ spec body time limit,
      let stale := d.queued.take d.client.responses.drain.2.length
      stale.map Prod.snd = d.client.responses.drain.2 ∧
      (∀ item ∈ stale, item.1 < d.sent.length) ∧
      (d.client.transmit spec body time limit).1.discarded =
        d.client.discarded + stale.length := by
  have ha := h.aligned
  refine ⟨?_, ?_⟩
  · intro x hx
    obtain ⟨earlier, hsent⟩ := ha.current x hx
    refine ⟨earlier, hsent, ?_⟩
    intro seen
    have hown := ha.seen_own_iff hsent
    have hseen : seen.map Prod.snd = d.client.responses.read.2 := ha.seen.1
    have hlength : seen.length = d.client.responses.read.2.length := by
      rw [← hseen, List.length_map]
    refine ⟨hseen, ?_, ?_, ?_⟩
    · rw [Client.poll_fst, hlength]
      exact ha.seen.2.symm
    · intro response hresponse
      obtain ⟨front, back, hbatch, hfront, hseq, hothers⟩ :=
        Exchange.select_some (Client.poll_ok_iff.mp hresponse)
      obtain ⟨before, number, behind, hsplit, hsub, hbefore, -⟩ :=
        Queue.labelled_split (hseen.trans hbatch)
      have hmem : (number, response) ∈ seen := hsplit ▸ List.mem_append_right _ List.mem_cons_self
      -- the number is right, so the response answers this exchange
      obtain rfl : number = earlier.length := (hown _ hmem).mp hseq
      refine ⟨before, behind, hsplit, ?_, ?_⟩
      · intro other hother hsame
        have hinside := hsub.subset (List.mem_append_left _ hother)
        refine hothers other.2 (hbefore ▸ List.mem_map_of_mem hother) ?_
        exact (hown other hinside).mpr hsame
      · rw [Client.poll_fst, ← hfront, ← hbefore, List.length_map]
    · intro hnone
      have hselect : (Exchange.select x.seq d.client.responses.read.2).2 = none := by
        rw [Option.eq_none_iff_forall_ne_some]
        exact fun response hfound => hnone response (Client.poll_ok_iff.mpr hfound)
      obtain ⟨hcount, hothers⟩ := Exchange.select_none hselect
      refine ⟨?_, ?_⟩
      · intro other hother hsame
        exact hothers other.2 (hseen ▸ List.mem_map_of_mem hother) ((hown other hother).mpr hsame)
      · rw [Client.poll_fst, hlength, ← hcount]
  · intro spec body time limit stale
    have hstale : stale.map Prod.snd = d.client.responses.drain.2 := ha.drained.1
    refine ⟨hstale, ?_, ?_⟩
    · intro item hitem
      obtain ⟨x, hx, -⟩ := ha.repeats item (List.mem_of_mem_take hitem)
      exact (List.getElem?_eq_some_iff.mp hx).1
    · rw [(d.client.transmit_spec spec body time limit).2.1, ← hstale, List.length_map]

/-- The answer to the first command comes while the second one waits for its own. -/
theorem response_is_own_after_late_answer :
    let spec : CommandSpec := ⟨"ping", 1, "", .empty, .none⟩
    let specs : Specs := ⟨.empty, .empty, .empty⟩
    let own : ResponseMessage := ⟨2, [0, 7]⟩
    let first := Dialogue.send ⟨.start .default specs, [], none, []⟩ spec [] .immediate ⟨0⟩
    let second := Dialogue.send { first with current := none } spec [] .immediate ⟨0⟩
    let d := (second.arrive 0 ⟨1, [0]⟩).arrive 1 own
    Reaches .default specs d ∧
      ∃ x ∈ d.current, (d.client.poll x).2 = some (.ok own) ∧
        (1, own) ∈ d.queued.take d.client.responses.read.2.length := by
  intro spec specs own first second d
  let x : Exchange := ⟨spec, .immediate, ⟨0⟩, 2, none⟩
  have hfirst : Reaches .default specs first := Reaches.start.sends rfl _ _ _ _
  have hsecond : Reaches .default specs second := hfirst.expires.sends rfl _ _ _ _
  obtain ⟨frame, hclient⟩ : ∃ frame, first.client = { Client.start .default specs with
      seq := 1
      outbound := ⟨64, false, [.item frame], false, false, 0⟩ } := ⟨_, rfl⟩
  have hone : first.sent = [some ⟨spec, .immediate, ⟨0⟩, 1, none⟩] := rfl
  -- from here on only these facts are needed, and the frame that was sent is not worked out again
  clear_value first
  have hcurrent : second.current = some x := by
    show (first.client.transmit _ _ _ _).2.toOption = _
    rw [hclient]
    rfl
  have hresponses : second.client.responses = .new 16 true := by
    show (first.client.transmit _ _ _ _).1.responses = _
    rw [(Client.transmit_spec _ _ _ _ _).1, hclient]
    rfl
  have htwo : second.sent = [some ⟨spec, .immediate, ⟨0⟩, 1, none⟩, some x] := by
    show first.sent ++ [second.current] = _
    rw [hone, hcurrent]
    rfl
  clear_value second
  have hlate : Reaches .default specs (second.arrive 0 ⟨1, [0]⟩) := by
    refine hsecond.answers ⟨⟨_, congrArg (·[0]?) htwo, rfl⟩, ?_⟩
    rw [htwo]
    decide
  have hd : Reaches .default specs d := by
    refine hlate.answers ⟨⟨x, congrArg (·[1]?) htwo, rfl⟩, ?_⟩
    show second.sent.length ≤ _
    rw [htwo]
    decide
  have hqueue : d.client.responses =
      ⟨16, true, [.item ⟨1, [0]⟩, .item own], false, false, 0⟩ := by
    show ((second.client.responses.enqueue _).1.enqueue own).1 = _
    rw [hresponses]
    rfl
  have hpoll : (d.client.poll x).2 = some (.ok own) := by
    rw [Client.poll_ok_iff, hqueue]
    rfl
  have hlast : x ∈ d.current := hcurrent
  have hboth : d.sent = _ := htwo
  clear_value d
  obtain ⟨earlier, hsent, -, -, hown, -⟩ := hd.response_is_own.1 x hlast
  obtain ⟨before, behind, hseen, -, -⟩ := hown own hpoll
  have hlength : earlier.length + 1 = 2 := by
    have hlengths := congrArg List.length (hsent.symm.trans hboth)
    rwa [List.length_append] at hlengths
  refine ⟨hd, x, hlast, hpoll, ?_⟩
  rw [hseen, Nat.succ.inj hlength]
  exact List.mem_append_right _ List.mem_cons_self

end Dialogue

end GroundLink
