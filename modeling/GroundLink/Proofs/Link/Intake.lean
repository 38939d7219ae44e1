import GroundLink.Link.Client
import GroundLink.Link.Workers
import GroundLink.Proofs.Except
import GroundLink.Proofs.Link.Pipe
import GroundLink.Proofs.Link.Queue
import GroundLink.Proofs.Link.Wire
import GroundLink.Proofs.Message

/-!
# What a client receives

What the peer writes goes through the pipe, the receiving worker, the raw queue and the receivers of
frames before a client passes messages on, and every one of them cuts the bytes anew. `Reaches`
lists what can happen; read it first. `Accounts` says where each byte that was written is, and
`offers_what_was_sent` draws the conclusion: the client offers the messages that were sent, each of
them once and in order, and a few more turns of its threads offer all of them.
-/

namespace GroundLink

/-! ## What is offered -/

namespace Message

/-- The response that a message is. -/
def response? : Message → Option ResponseMessage
  | response r => some r
  | command _ | log _ => none

/-- The log entry that a message is. -/
def logEntry? : Message → Option LogEntry
  | log e => some e
  | command _ | response _ => none

end Message

namespace Client

/-- Write the responses among some messages to the queue of responses, and send the log entries
among them to the log listeners. -/
def offer (c : Client) (messages : List Message) : Client :=
  { c with
    responses := (messages.filterMap Message.response?).foldl (fun q r => (q.write r).1)
      c.responses
    logs := (messages.filterMap Message.logEntry?).foldl FanOut.send c.logs }

/-- A payload that is read as a message is offered as this message. -/
theorem route_eq_offer (c : Client) {payload : Bytes} {message : Message}
    (h : Message.decode payload = .ok message) : c.route payload = c.offer [message] := by
  rw [route, h]
  cases message <;> rfl

/-- Messages are offered one after another. -/
theorem offer_cons (c : Client) (message : Message) (rest : List Message) :
    (c.offer [message]).offer rest = c.offer (message :: rest) := by
  cases message <;> rfl

/-- Payloads that are read as messages are offered as these messages. -/
theorem route_all_eq_offer (c : Client) {payloads : List Bytes} {messages : List Message}
    (h : payloads.map Message.decode = messages.map .ok) :
    payloads.foldl route c = c.offer messages := by
  induction payloads generalizing c messages with
  | nil =>
      obtain rfl := List.map_eq_nil_iff.mp h.symm
      rfl
  | cons payload rest ih =>
      obtain ⟨message, others, rfl, hmessage, hothers⟩ := List.map_eq_cons_iff.mp h.symm
      rw [List.foldl_cons, c.route_eq_offer hmessage.symm, ih _ hothers.symm, offer_cons]

/-- Passing a payload on leaves the way of what is received alone. -/
theorem route_receivers (c : Client) (payload : Bytes) :
    (c.route payload).raw = c.raw ∧ (c.route payload).inbound = c.inbound := by
  unfold route
  split <;> exact ⟨rfl, rfl⟩

/-- Payloads on their way do not change the queues that they come from. -/
theorem route_all_receivers (c : Client) (payloads : List Bytes) :
    (payloads.foldl route c).raw = c.raw ∧ (payloads.foldl route c).inbound = c.inbound := by
  induction payloads generalizing c with
  | nil => exact ⟨rfl, rfl⟩
  | cons payload rest ih =>
      obtain ⟨hraw, hinbound⟩ := c.route_receivers payload
      obtain ⟨hraws, hinbounds⟩ := ih (c.route payload)
      exact ⟨hraws.trans hraw, hinbounds.trans hinbound⟩

end Client

/-! ## What can happen -/

/-- A client with the workers of its device, and what nobody but the proof sees. -/
structure Intake where
  /-- Their receiving side is the raw queue of the client. -/
  workers : Workers
  client : Client
  /-- What was taken out of the raw queue and was not fed to the receivers of frames yet. -/
  batch : List Bytes
  /-- What the peer wrote. -/
  written : Bytes
  /-- The payloads that were passed on. -/
  passed : List Bytes
  /-- The frames that were dropped. -/
  dropped : List Drop

namespace Intake

/-- The peer writes. -/
def write (d : Intake) (data : Bytes) : Intake :=
  { d with
    workers := { d.workers with pipe := (d.workers.pipe.write .b data).1 }
    written := d.written ++ data }

/-- The receiving worker takes a turn. -/
def receive (d : Intake) : Intake :=
  { d with
    workers := d.workers.receive
    client := { d.client with raw := d.workers.receive.rx } }

/-- The client takes pieces out of the raw queue. -/
def take (d : Intake) (limit : Nat) : Intake :=
  { d with
    workers := { d.workers with rx := (d.client.raw.take limit).1 }
    client := { d.client with raw := (d.client.raw.take limit).1 }
    batch := d.batch ++ (d.client.raw.take limit).2 }

/-- The client feeds what it took to the receivers of frames, and passes payloads on. -/
def feed (d : Intake) : Intake :=
  let (inbound, received) := d.client.inbound.pushAll d.batch
  { d with
    client := received.frames.foldl Client.route { d.client with inbound }
    batch := []
    passed := d.passed ++ received.frames
    dropped := d.dropped ++ received.drops }

/-- What can happen while the device and the raw queue stay open. -/
inductive Reaches (settings : Settings) (specs : Specs) : Intake → Prop
  | start {workers : Workers}
      (hstart : Workers.start (Pipe.new.connect .b).1 settings.link.readBuffer.toNat
        (Client.start settings specs).raw (Client.start settings specs).outbound = .ok workers) :
      Reaches settings specs ⟨workers, .start settings specs, [], [], [], []⟩
  | writes {d : Intake} (h : Reaches settings specs d) (data : Bytes) :
      Reaches settings specs (d.write data)
  | receives {d : Intake} (h : Reaches settings specs d) : Reaches settings specs d.receive
  | takes {d : Intake} (h : Reaches settings specs d) (limit : Nat) :
      Reaches settings specs (d.take limit)
  | feeds {d : Intake} (h : Reaches settings specs d) : Reaches settings specs d.feed
  /-- The sending worker takes a turn, the peer reads, or another stage of the client runs. -/
  | elsewhere {d : Intake} (h : Reaches settings specs d) (inbox : List Bytes) (pending : Bytes)
      (tx : Queue Bytes) (sends : Bool) {client : Client} (hraw : client.raw = d.client.raw)
      (hinbound : client.inbound = d.client.inbound) :
      Reaches settings specs { d with
        workers := { d.workers with
          pipe := d.workers.pipe.withSide .b { d.workers.pipe.b with inbox, pending }
          tx
          sends }
        client }

end Intake

/-! ## The receiving worker -/

/-- A read takes from the front of what is on the way, and if it gives nothing there is less to
read or nothing at all. -/
theorem Pipe.read_spec {p : Pipe} {size : Nat} (hsize : size ≠ 0) (hopen : p.a.isOpen = true)
    (hpeer : p.b.intact = true) :
    ∃ data pending inbox,
      p.read .a size = ({ p with a := { p.a with inbox, pending } }, .ok data) ∧
      data ++ (pending :: inbox).flatten = (p.a.pending :: p.a.inbox).flatten ∧
      inbox.length ≤ p.a.inbox.length ∧
      (data = [] → inbox.length < p.a.inbox.length ∨
        pending = p.a.pending ∧ inbox = p.a.inbox ∧ p.a.pending = [] ∧ p.a.inbox = []) := by
  rcases p.read_cases .a size with ⟨hclosed, -⟩ |
    ⟨-, data, pending, inbox, hread, hunread, hle, hless⟩ |
    ⟨-, hinbox, hpending, ⟨-, hread⟩ | ⟨hbroken, -⟩⟩
  · exact absurd (hclosed.symm.trans hopen) Bool.false_ne_true
  · exact ⟨data, pending, inbox, hread, hunread.symm, hle, fun hnothing =>
      .inl (hless hsize hnothing)⟩
  · exact ⟨[], p.a.pending, p.a.inbox, hread, rfl, Nat.le_refl _, fun _ =>
      .inr ⟨rfl, rfl, hpending hsize, hinbox⟩⟩
  · exact absurd (hbroken.symm.trans hpeer) Bool.false_ne_true

namespace Workers

/-- What was written to the device and not yet taken out of the queue of what was received. -/
def underway (w : Workers) : Bytes :=
  (w.rx.items ++ w.held.toList ++ w.pipe.a.pending :: w.pipe.a.inbox).flatten

/-- How far what is underway has to go: every piece and every byte goes through the hands of the
worker and the queue. -/
def load (w : Workers) : Nat :=
  3 * (w.pipe.a.inbox.length + (w.pipe.a.pending :: w.pipe.a.inbox).flatten.length) +
    2 * w.held.toList.length + w.rx.size

/-- Device and queue are open, and the receiving worker runs. -/
structure Live (w : Workers) : Prop where
  receives : w.receives = true
  here : w.pipe.a.isOpen = true ∧ w.pipe.a.intact = true
  there : w.pipe.b.isOpen = true ∧ w.pipe.b.intact = true
  whole : w.pipe.broken = false
  reads : w.readBuffer ≠ 0
  accepts : w.rx.closed = false
  waits : w.rx.lossy = false

variable {w : Workers}

/-- A piece that is handed over is the last one in the queue, or is held until there is room. -/
theorem Live.hand_over (h : w.Live) (data : Bytes) :
    (w.rx.isFull = true ∧ w.handOver data = { w with held := some data }) ∨
      w.handOver data =
        { w with held := none, rx := { w.rx with elements := w.rx.elements ++ [.item data] } } := by
  cases hfull : w.rx.isFull with
  | true =>
      have hwrite : w.rx.write data = (w.rx, .waits) := by
        simp only [Queue.write, Queue.enqueue, h.accepts, h.waits, hfull, Bool.false_eq_true,
          if_false, if_true]
      exact .inl ⟨rfl, by rw [handOver, hwrite]⟩
  | false =>
      have hwrite : w.rx.write data =
          ({ w.rx with elements := w.rx.elements ++ [.item data] }, .accepted) := by
        simp only [Queue.write, Queue.enqueue, h.accepts, hfull, Bool.false_eq_true, if_false]
      exact .inr (by rw [handOver, hwrite])

/-- A piece that is handed over stands behind those in the queue. -/
theorem Live.hand_over_spec (h : w.Live) (data : Bytes) :
    (w.handOver data).Live ∧ (w.handOver data).pipe = w.pipe ∧
      (w.handOver data).rx.items ++ (w.handOver data).held.toList = w.rx.items ++ [data] ∧
      2 * (w.handOver data).held.toList.length + (w.handOver data).rx.size ≤ 2 + w.rx.size := by
  rcases h.hand_over data with ⟨-, hhanded⟩ | hhanded
  · rw [hhanded]
    exact ⟨{ h with }, rfl, rfl, Nat.le_refl _⟩
  · rw [hhanded]
    refine ⟨{ h with }, rfl, ?_, ?_⟩
    · show (w.rx.elements ++ [Queued.item data]).filterMap Queue.item? ++ [] = _
      rw [List.append_nil, List.filterMap_append]
      rfl
    · show 2 * 0 + (w.rx.elements ++ [Queued.item data]).length ≤ 2 + w.rx.elements.length
      rw [List.length_append, List.length_singleton]
      omega

/-- A worker that holds a piece hands it over before it reads. -/
theorem Live.receive_held (h : w.Live) {data : Bytes} (hheld : w.held = some data) :
    w.receive = w.handOver data := by
  simp only [receive, h.receives, hheld, Bool.not_true, Bool.false_eq_true, if_false]

/-- A worker that reads nothing hands nothing over. -/
theorem Live.receive_nothing (h : w.Live) (hheld : w.held = none) {pipe : Pipe}
    (hread : w.pipe.read .a w.readBuffer = (pipe, .ok [])) : w.receive = { w with pipe } := by
  simp only [receive, h.receives, hheld, hread, Bool.not_true, Bool.false_eq_true, if_false]

/-- A worker hands over what it reads. -/
theorem Live.receive_piece (h : w.Live) (hheld : w.held = none) {pipe : Pipe} {byte : UInt8}
    {rest : Bytes} (hread : w.pipe.read .a w.readBuffer = (pipe, .ok (byte :: rest))) :
    w.receive = handOver { w with pipe } (byte :: rest) := by
  simp only [receive, h.receives, hheld, hread, Bool.not_true, Bool.false_eq_true, if_false]

/-- What a turn does to what is underway: it loses nothing, doubles nothing and keeps the order. It
brings something further, unless the queue is full or nothing is left but what is in the queue. -/
structure Forwards (w next : Workers) : Prop where
  live : next.Live
  underway : next.underway = w.underway
  load : next.load < w.load ∨ next = w ∧ (w.rx.isFull = true ∨ w.load = w.rx.size)

/-- The worker hands over what it holds. -/
theorem Live.forwards_held (h : w.Live) {data : Bytes} (hheld : w.held = some data) :
    w.Forwards (w.handOver data) := by
  obtain ⟨hlive, hpipe, hitems, -⟩ := h.hand_over_spec data
  refine ⟨hlive, ?_, ?_⟩
  · rw [Workers.underway, Workers.underway, hpipe, hitems, hheld]
    rfl
  · rcases h.hand_over data with ⟨hfull, hhanded⟩ | hhanded
    · refine .inr ⟨?_, .inl hfull⟩
      rw [hhanded, ← hheld]
    · refine .inl ?_
      rw [hhanded]
      simp only [Workers.load, hheld, Queue.size, Option.toList, List.length_append,
        List.length_cons, List.length_nil]
      omega

section Read

variable {pending : Bytes} {inbox : List Bytes}

/-- The worker reads an empty write, or finds that there is nothing to read. -/
theorem Live.forwards_nothing (h : w.Live) (hheld : w.held = none)
    (hjoined : (pending :: inbox).flatten = (w.pipe.a.pending :: w.pipe.a.inbox).flatten)
    (hnothing : inbox.length < w.pipe.a.inbox.length ∨
      pending = w.pipe.a.pending ∧ inbox = w.pipe.a.inbox ∧ w.pipe.a.pending = [] ∧
        w.pipe.a.inbox = []) :
    w.Forwards { w with pipe := { w.pipe with a := { w.pipe.a with inbox, pending } } } := by
  refine ⟨{ h with }, ?_, ?_⟩
  · simp only [Workers.underway, List.flatten_append, hjoined]
  · rcases hnothing with hlt | ⟨rfl, rfl, hpending, hinbox⟩
    · refine .inl ?_
      simp only [Workers.load, hjoined]
      omega
    · refine .inr ⟨rfl, .inr ?_⟩
      simp only [Workers.load, hheld, hpending, hinbox, Option.toList, List.length_nil,
        List.flatten_cons, List.flatten_nil, List.append_nil]
      omega

/-- The worker hands over what it reads. -/
theorem Live.forwards_piece (h : w.Live) (hheld : w.held = none) {byte : UInt8} {rest : Bytes}
    (hjoined : byte :: rest ++ (pending :: inbox).flatten =
      (w.pipe.a.pending :: w.pipe.a.inbox).flatten)
    (hle : inbox.length ≤ w.pipe.a.inbox.length) :
    w.Forwards (handOver
      { w with pipe := { w.pipe with a := { w.pipe.a with inbox, pending } } } (byte :: rest)) := by
  have hmoved : Live { w with pipe := { w.pipe with a := { w.pipe.a with inbox, pending } } } :=
    { h with }
  obtain ⟨hlive, hpipe, hitems, hload⟩ := hmoved.hand_over_spec (byte :: rest)
  have hbytes := congrArg List.length hjoined
  rw [List.length_append, List.length_cons] at hbytes
  refine ⟨hlive, ?_, .inl ?_⟩
  · rw [Workers.underway, hpipe, hitems]
    simp only [Workers.underway, hheld, Option.toList, List.append_nil, List.flatten_append,
      List.flatten_singleton, List.append_assoc, hjoined]
  · rw [Workers.load, hpipe, Nat.add_assoc]
    refine Nat.lt_of_le_of_lt (Nat.add_le_add_left hload _) ?_
    simp only [Workers.load, hheld, Option.toList, List.length_nil]
    omega

end Read

/-- So a worker that is alive loses nothing. -/
theorem Live.forwards (h : w.Live) : w.Forwards w.receive := by
  cases hheld : w.held with
  | some data =>
      rw [h.receive_held hheld]
      exact h.forwards_held hheld
  | none =>
      obtain ⟨data, pending, inbox, hread, hjoined, hle, hnothing⟩ :=
        Pipe.read_spec h.reads h.here.1 h.there.2
      cases data with
      | nil =>
          rw [h.receive_nothing hheld hread]
          exact h.forwards_nothing hheld hjoined (hnothing rfl)
      | cons byte rest =>
          rw [h.receive_piece hheld hread]
          exact h.forwards_piece hheld hjoined hle

/-- Taking pieces out of the queue leaves the rest as it is. -/
theorem Live.taken (h : w.Live) (limit : Nat) : Live { w with rx := (w.rx.take limit).1 } :=
  { h with }

/-- Taking chunks does not add to the load. -/
theorem load_taken_le (w : Workers) (limit : Nat) :
    load { w with rx := (w.rx.take limit).1 } ≤ w.load :=
  Nat.add_le_add_left (w.rx.size_take_le limit) _

/-- Taking chunks that are there makes the load smaller. -/
theorem load_taken_lt {limit : Nat} (hlimit : 0 < limit) (hsize : 0 < w.rx.size) :
    load { w with rx := (w.rx.take limit).1 } < w.load :=
  Nat.add_lt_add_left (Queue.size_take_lt hlimit hsize) _

/-- A turn of the worker and a read behind it bring something further, until nothing is left: where
the worker waits for room, the read makes some. -/
theorem Live.load_lt (h : w.Live) {limit : Nat} (hlimit : 0 < limit) :
    let next := { w.receive with rx := (w.receive.rx.take limit).1 }
    next.load < w.load ∨ next.load = 0 := by
  intro next
  have hnext : next.load ≤ w.receive.load := load_taken_le w.receive limit
  obtain ⟨-, -, hlt | ⟨hsame, hstuck⟩⟩ := h.forwards
  · exact .inl (Nat.lt_of_le_of_lt hnext hlt)
  · rw [hsame] at hnext
    rcases Nat.eq_zero_or_pos w.load with hzero | hpos
    · exact .inr (Nat.eq_zero_of_le_zero (hzero ▸ hnext))
    · have hsize : 0 < w.rx.size := by
        rcases hstuck with hfull | hsize
        · simp only [Queue.isFull, Bool.and_eq_true, bne_iff_ne, decide_eq_true_eq] at hfull
          omega
        · exact hsize ▸ hpos
      refine .inl ?_
      show load { w.receive with rx := (w.receive.rx.take limit).1 } < w.load
      rw [hsame]
      exact load_taken_lt hlimit hsize

/-- Without a load nothing is underway. -/
theorem underway_of_load_eq_zero (h : w.load = 0) : w.underway = [] := by
  have hsize : w.rx.elements = [] := by
    apply List.eq_nil_of_length_eq_zero
    simp only [load, Queue.size] at h
    omega
  have hheld : w.held.toList = [] := by
    apply List.eq_nil_of_length_eq_zero
    simp only [load] at h
    omega
  have hpipe : (w.pipe.a.pending :: w.pipe.a.inbox).flatten = [] := by
    apply List.eq_nil_of_length_eq_zero
    simp only [load] at h
    omega
  rw [underway, hheld, List.append_nil, List.flatten_append, hpipe, Queue.items, hsize]
  rfl

/-- Everything that is written to an open device comes to the other end. -/
theorem writeAll_spec {pipe : Pipe} (hopen : pipe.a.isOpen = true)
    (hintact : pipe.a.intact = true) (hwhole : pipe.broken = false) (pieces : List Bytes) :
    writeAll pipe pieces =
      (pipe.withSide .b { pipe.b with inbox := pipe.b.inbox ++ pieces }, true) := by
  induction pieces generalizing pipe with
  | nil =>
      rw [List.append_nil]
      rfl
  | cons data rest ih =>
      have hwrite : pipe.write .a data =
          (pipe.withSide .b { pipe.b with inbox := pipe.b.inbox ++ [data] }, .ok ()) := by
        simp only [Pipe.write, Pipe.side, PipeEnd.peer, hopen, hintact, hwhole, Bool.not_true,
          Bool.not_false, Bool.and_true, Bool.false_eq_true, if_false, if_true]
      rw [writeAll, hwrite]
      refine Eq.trans (ih ?_ ?_ ?_) ?_
      · exact hopen
      · exact hintact
      · exact hwhole
      · simp only [Pipe.withSide, List.append_assoc, List.singleton_append]

end Workers

/-! ## Every byte has its place -/

namespace Intake

variable {settings : Settings} {specs : Specs} {kind : LinkKind} {d : Intake}

/-- Every byte that was written was fed to the receivers of frames, was taken out of the raw queue,
or is underway, and the receivers were fed with nothing else. -/
structure Accounts (kind : LinkKind) (d : Intake) : Prop where
  live : d.workers.Live
  /-- The raw queue is that of the workers. -/
  shared : d.client.raw = d.workers.rx
  account : ∃ fed : List Bytes,
    (Inbound.new kind).pushAll fed = (d.client.inbound, ⟨d.passed, d.dropped⟩) ∧
      d.written = fed.flatten ++ d.batch.flatten ++ d.workers.underway

/-- At the start no byte is anywhere. -/
theorem start_accounts {workers : Workers}
    (hstart : Workers.start (Pipe.new.connect .b).1 settings.link.readBuffer.toNat
      (Client.start settings specs).raw (Client.start settings specs).outbound = .ok workers) :
    Accounts settings.link.kind ⟨workers, .start settings specs, [], [], [], []⟩ := by
  obtain rfl := Except.ok.inj hstart
  refine ⟨⟨rfl, ⟨rfl, rfl⟩, ⟨rfl, rfl⟩, rfl, ?_, rfl, rfl⟩, rfl, [], rfl, rfl⟩
  exact Nat.ne_of_gt (Nat.le_max_left 1 _)

/-- A write adds bytes at the end of those that are underway. -/
theorem Accounts.write (h : d.Accounts kind) (data : Bytes) : (d.write data).Accounts kind := by
  obtain ⟨hlive, hshared, fed, hfed, hwritten⟩ := h
  have hwrite : (d.workers.pipe.write .b data).1 =
      { d.workers.pipe with
        a := { d.workers.pipe.a with inbox := d.workers.pipe.a.inbox ++ [data] } } := by
    simp only [Pipe.write, Pipe.side, Pipe.withSide, PipeEnd.peer, hlive.there.1, hlive.there.2,
      hlive.whole, Bool.not_true, Bool.not_false, Bool.and_true, Bool.false_eq_true, if_false,
      if_true]
  unfold Intake.write
  rw [hwrite]
  refine ⟨{ hlive with }, hshared, fed, hfed, ?_⟩
  simp only [hwritten, Workers.underway, List.append_assoc, List.flatten_append, List.flatten_cons,
    List.flatten_nil, List.append_nil]

/-- A turn of the worker moves bytes and loses none. -/
theorem Accounts.receive (h : d.Accounts kind) : d.receive.Accounts kind := by
  obtain ⟨hlive, -, fed, hfed, hwritten⟩ := h
  obtain ⟨hreceives, hunderway, -⟩ := hlive.forwards
  refine ⟨hreceives, rfl, fed, hfed, ?_⟩
  show d.written = _ ++ d.workers.receive.underway
  rw [hunderway]
  exact hwritten

/-- Taking chunks moves bytes and loses none. -/
theorem Accounts.take (h : d.Accounts kind) (limit : Nat) : (d.take limit).Accounts kind := by
  obtain ⟨hlive, hshared, fed, hfed, hwritten⟩ := h
  unfold Intake.take
  rw [hshared]
  refine ⟨hlive.taken limit, rfl, fed, hfed, ?_⟩
  simp only [hwritten, Workers.underway, d.workers.rx.items_take limit, List.append_assoc,
    List.flatten_append]

/-- Feeding the deframer moves bytes and loses none. -/
theorem Accounts.feed (h : d.Accounts kind) : d.feed.Accounts kind := by
  obtain ⟨hlive, hshared, fed, hfed, hwritten⟩ := h
  obtain ⟨hraw, hinbound⟩ := Client.route_all_receivers
    { d.client with inbound := (d.client.inbound.pushAll d.batch).1 }
    (d.client.inbound.pushAll d.batch).2.frames
  refine ⟨hlive, hraw.trans hshared, fed ++ d.batch, ?_, ?_⟩
  · rw [Inbound.push_all_append, hfed]
    exact congrArg (·, _) hinbound.symm
  · rw [List.flatten_append]
    exact hwritten.trans (congrArg (· ++ _) (List.append_nil _).symm)

/-- So every byte that was ever written has its place. -/
theorem Reaches.accounts (h : Reaches settings specs d) : d.Accounts settings.link.kind := by
  induction h with
  | start hstart => exact start_accounts hstart
  | writes _ data ih => exact ih.write data
  | receives _ ih => exact ih.receive
  | takes _ limit ih => exact ih.take limit
  | feeds _ ih => exact ih.feed
  | elsewhere _ inbox pending tx sends hraw hinbound ih =>
      obtain ⟨hlive, hshared, fed, hfed, hwritten⟩ := ih
      refine ⟨{ hlive with }, hraw.trans hshared, fed, ?_, hwritten⟩
      rw [hinbound]
      exact hfed

/-! ## Threads

The steps are taken by the workers of the device and by the thread that dispatches messages. -/

/-- A turn of the thread that dispatches messages. -/
theorem Reaches.dispatch (h : Reaches settings specs d) (hbatch : d.batch = []) :
    let received := (d.client.inbound.pushAll d.client.raw.read.2).2
    Reaches settings specs { d with
      workers := { d.workers with rx := d.client.raw.read.1 }
      client := d.client.dispatch
      passed := d.passed ++ received.frames
      dropped := d.dropped ++ received.drops } := by
  have hopen : d.client.raw.closed = false := by
    rw [h.accounts.shared]
    exact h.accounts.live.accepts
  obtain ⟨limit, hread⟩ := Queue.read_eq_take hopen
  have hfed := (h.takes limit).feeds
  rw [hread]
  unfold Client.dispatch
  simp only [feed, take, hbatch, List.nil_append] at hfed
  rw [hread, hbatch]
  exact hfed

/-- A turn of the sending worker. -/
theorem Reaches.sends (h : Reaches settings specs d) :
    Reaches settings specs { d with workers := d.workers.send } := by
  have hlive := h.accounts.live
  unfold Workers.send
  split
  case isTrue => exact h
  case isFalse =>
    have hwrite := Workers.writeAll_spec hlive.here.1 hlive.here.2 hlive.whole
      d.workers.tx.read.2
    simp only [hwrite]
    exact h.elsewhere _ _ _ _ rfl rfl

/-! ## Everything arrives -/

/-- The receiving worker and the client take a turn each. -/
def turn (d : Intake) : Intake :=
  (d.receive.take Queue.batchSize).feed

/-- Several turns. -/
def turns (d : Intake) : Nat → Intake
  | 0 => d
  | n + 1 => d.turn.turns n

/-- Nothing that was written is on the way any more. -/
def Done (d : Intake) : Prop :=
  d.batch = [] ∧ d.workers.underway = []

/-- Turns of the worker lead to what can be reached. -/
theorem Reaches.turns (h : Reaches settings specs d) (n : Nat) :
    Reaches settings specs (d.turns n) := by
  induction n generalizing d with
  | zero => exact h
  | succ n ih => exact ih (h.receives.takes _).feeds

/-- Turns of the worker write nothing. -/
theorem written_turns (d : Intake) (n : Nat) : (d.turns n).written = d.written := by
  induction n generalizing d with
  | zero => rfl
  | succ n ih => exact ih d.turn

/-- After some turns nothing is on the way. -/
theorem Reaches.exists_done (h : Reaches settings specs d) : ∃ n, (d.turns n).Done := by
  -- every turn leaves less to do, and the batch of the last one is fed
  induction hload : d.workers.load using Nat.strong_induction_on generalizing d with
  | _ load ih =>
      have hbatch : 0 < Queue.batchSize := by decide
      rcases h.accounts.live.load_lt hbatch with hlt | hzero
      · have hturn : Reaches settings specs d.turn := (h.receives.takes _).feeds
        obtain ⟨n, hdone⟩ := ih d.turn.workers.load (hload ▸ hlt) hturn rfl
        exact ⟨n + 1, hdone⟩
      · exact ⟨1, rfl, Workers.underway_of_load_eq_zero hzero⟩

/-! ## What was sent is offered -/

/-- The payloads that were passed on are those of some messages, and wherever they are passed on the
client offers these messages. -/
structure Offers (d : Intake) (messages : List Message) : Prop where
  decoded : d.passed.map Message.decode = messages.map .ok
  offered : ∀ client : Client, d.passed.foldl Client.route client = client.offer messages

/-- Payloads that are those of messages make the client offer the messages. -/
theorem offers_of_passed {messages : List Message} (h : d.passed = messages.map Message.encode) :
    d.Offers messages := by
  have hdecoded : d.passed.map Message.decode = messages.map .ok := by
    rw [h, Message.decode_map_encode]
  exact ⟨hdecoded, fun client => client.route_all_eq_offer hdecoded⟩

/-- Messages that a link carries have frames with their payloads. -/
theorem exists_frames {messages : List Message}
    (hfit : ∀ m ∈ messages, m.encode.length ≤ kind.maxPayload) :
    ∃ frames, messages.mapM (fun m => kind.frame m.encode) = .ok frames ∧
      frames.map SerialFrame.payload = messages.map Message.encode ∧
      ∀ frame ∈ frames, frame.payload.length ≤ kind.maxPayload := by
  induction messages with
  | nil => exact ⟨[], rfl, rfl, List.forall_mem_nil _⟩
  | cons m rest ih =>
      obtain ⟨hm, hrest⟩ := List.forall_mem_cons.mp hfit
      obtain ⟨frames, hframes, hpayloads, hsizes⟩ := ih hrest
      obtain ⟨frame, hframe, hpayload⟩ := LinkKind.exists_frame hm
      refine ⟨frame :: frames, ?_, ?_, List.forall_mem_cons.mpr ⟨hpayload ▸ hm, hsizes⟩⟩
      · rw [List.mapM_cons, hframe, hframes]
        rfl
      · rw [List.map_cons, hpayload, hpayloads, List.map_cons]

/-- While the peer writes the frames of some messages, the payloads that were passed on are those of
the messages that come first. -/
theorem Reaches.passed_prefix (h : Reaches settings specs d) {messages : List Message}
    {frames : List SerialFrame}
    (hpayloads : frames.map SerialFrame.payload = messages.map Message.encode)
    (hsizes : ∀ frame ∈ frames, frame.payload.length ≤ settings.link.kind.maxPayload)
    (hwritten : d.written <+: (frames.map settings.link.kind.wire).flatten) :
    ∃ first, first <+: messages ∧ d.passed = first.map Message.encode ∧ d.dropped = [] := by
  obtain ⟨-, -, fed, hfed, haccount⟩ := h.accounts
  have hpieces : fed.flatten <+: (frames.map settings.link.kind.wire).flatten := by
    rw [List.append_assoc] at haccount
    exact List.IsPrefix.trans ⟨_, haccount.symm⟩ hwritten
  obtain ⟨hpassed, hdropped⟩ := Inbound.push_all_incomplete settings.link.kind hsizes hpieces
  rw [hfed] at hpassed hdropped
  rw [hpayloads, List.prefix_map_iff] at hpassed
  obtain ⟨first, hfirst, hpassed⟩ := hpassed
  exact ⟨first, hfirst, hpassed, hdropped⟩

/-- When nothing is on the way any more, the payloads of all messages were passed on. -/
theorem Reaches.passed_of_done (h : Reaches settings specs d) {messages : List Message}
    {frames : List SerialFrame}
    (hpayloads : frames.map SerialFrame.payload = messages.map Message.encode)
    (hsizes : ∀ frame ∈ frames, frame.payload.length ≤ settings.link.kind.maxPayload)
    (hwritten : d.written = (frames.map settings.link.kind.wire).flatten) (hdone : d.Done) :
    d.passed = messages.map Message.encode := by
  obtain ⟨-, -, fed, hfed, haccount⟩ := h.accounts
  obtain ⟨hbatch, hunderway⟩ := hdone
  rw [hbatch, hunderway, List.flatten_nil, List.append_nil, List.append_nil] at haccount
  obtain ⟨hgiven, -⟩ :=
    Inbound.push_all_wire settings.link.kind hsizes (haccount.symm.trans hwritten)
  rw [hfed] at hgiven
  exact (congrArg Received.frames hgiven).trans hpayloads

/-- Messages whose payloads a link carries are offered as they were sent. While the peer writes
their frames, cut as it likes, those that come first were offered, what the client feeds next lets
it offer those that follow, and no frame is dropped. When nothing is on the way any more, all of
them were offered, and some turns bring this about. -/
theorem Reaches.offers_what_was_sent (messages : List Message)
    (hfit : ∀ m ∈ messages, m.encode.length ≤ settings.link.kind.maxPayload) :
    ∃ frames, messages.mapM (fun m => settings.link.kind.frame m.encode) = .ok frames ∧
      let wire := (frames.map settings.link.kind.wire).flatten
      ∀ d, Reaches settings specs d →
        (d.written <+: wire →
          ∃ first now, first ++ now <+: messages ∧ d.Offers first ∧
            d.feed.client = { d.client with inbound := d.feed.client.inbound }.offer now ∧
            d.feed.Offers (first ++ now) ∧ d.feed.dropped = []) ∧
        (d.written = wire → d.Done → d.Offers messages) ∧
        ∃ n, (d.turns n).Done ∧ (d.turns n).written = d.written := by
  obtain ⟨frames, hframes, hpayloads, hsizes⟩ := exists_frames hfit
  refine ⟨frames, hframes, ?_⟩
  intro wire d h
  refine ⟨?_, ?_, ?_⟩
  · intro hwritten
    obtain ⟨both, hboth, hpassed, hdropped⟩ := h.feeds.passed_prefix hpayloads hsizes hwritten
    obtain ⟨first, now, rfl, hfirst, hnow⟩ := List.map_eq_append_iff.mp hpassed.symm
    obtain ⟨-, hinbound⟩ := Client.route_all_receivers
      { d.client with inbound := (d.client.inbound.pushAll d.batch).1 }
      (d.client.inbound.pushAll d.batch).2.frames
    refine ⟨first, now, hboth, offers_of_passed hfirst.symm, ?_, offers_of_passed hpassed, hdropped⟩
    show (d.client.inbound.pushAll d.batch).2.frames.foldl Client.route _ = _
    rw [show d.feed.client.inbound = _ from hinbound]
    refine Client.route_all_eq_offer _ ?_
    rw [← hnow, Message.decode_map_encode]
  · intro hwritten hdone
    exact offers_of_passed (h.passed_of_done hpayloads hsizes hwritten hdone)
  · obtain ⟨n, hdone⟩ := h.exists_done
    exact ⟨n, hdone, d.written_turns n⟩

/-- A response, a command and a log entry over a radio link. The mark of relay frames stands in the
response and is cut by the writes of the peer; the worker reads three bytes at once, into a queue
with room for one piece. -/
theorem offers_what_was_sent_in_cuts :
    let settings : Settings := { Settings.default with
      link := { LinkSettings.default with kind := .comms, readBuffer := 3, rxQueueSize := 1 } }
    let specs : Specs := ⟨.empty, .empty, .empty⟩
    let messages : List Message :=
      [.response ⟨7, [0x00, 0x22]⟩, .command ⟨1, 2, .immediate, []⟩, .log ⟨4, 5, ⟨6⟩, [0x69]⟩]
    let front : Bytes :=
      [0x22, 0x69, 0x09, 0xAB, 0xCD, 0x04, 0x02, 0x07, 0x00, 0x22, 0x44, 0x30, 0x22]
    let back : Bytes :=
      [0x69, 0x0D, 0xAB, 0xCD, 0x08, 0x01, 0x01, 0x00, 0x02, 0x00, 0x00, 0x00, 0x00, 0xC7, 0xE8,
        0x22, 0x69, 0x0D, 0xAB, 0xCD, 0x08, 0x03, 0x04, 0x05, 0x00, 0x00, 0x00, 0x06, 0x69, 0x05,
        0x86]
    (∀ m ∈ messages, m.encode.length ≤ settings.link.kind.maxPayload) ∧
      ∃ d, Reaches settings specs d ∧ d.written = front ++ back ∧ d.Offers messages := by
  intro settings specs messages front back
  have hfit : ∀ m ∈ messages, m.encode.length ≤ settings.link.kind.maxPayload := by decide
  obtain ⟨frames, hframes, hall⟩ :=
    @Reaches.offers_what_was_sent settings specs messages hfit
  have hwire : (frames.map settings.link.kind.wire).flatten = front ++ back := by
    have hsent : (messages.mapM (fun m => settings.link.kind.frame m.encode)).toOption.map
        (fun frames => (frames.map settings.link.kind.wire).flatten) = some (front ++ back) := by
      decide +kernel
    rw [hframes] at hsent
    exact Option.some.inj hsent
  have hstart : Reaches settings specs ⟨_, .start settings specs, [], [], [], []⟩ := .start rfl
  have hwritten := (hstart.writes front).writes back
  obtain ⟨-, -, n, hdone, hkept⟩ := hall _ hwritten
  obtain ⟨-, hoffers, -⟩ := hall _ (hwritten.turns n)
  exact ⟨hfit, _, hwritten.turns n, hkept, hoffers (hkept.trans hwire.symm) hdone⟩

end Intake

end GroundLink
