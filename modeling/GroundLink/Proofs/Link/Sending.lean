import GroundLink.Link.Exchange
import GroundLink.Proofs.Link.Dialogue
import GroundLink.Proofs.Link.Wire
import GroundLink.Proofs.Message

/-!
# What a client sends

`Request.commands` says which commands a client frames for the requests that it is called with;
read it first. `Sending.Reaches` lists what can happen while a client is called. A call that frames
nothing, or a command that is too long, puts nothing into the queue of what is to be sent
(`call_of_none`, `call_too_long`), and every other call one byte string (`call_fits`). `Sound` says
what this comes to over all calls, and `arrives_as_called` feeds the byte strings to the receivers
of the other end.
-/

namespace GroundLink

/-! ## Commands of requests -/

namespace Request

/-- The command of a request, but for its number, if it is known and its arguments can be
written. -/
def command? (specs : Specs) (request : Request) : Option Command := do
  let spec ← (specs.commands.command request.command).toOption
  let args ← (spec.encode request.args).toOption
  some ⟨0, spec.id, request.time, args⟩

/-- The commands that are framed for some requests, numbered from one. A number is a byte, and comes
back after 256 commands. -/
def commands (specs : Specs) (requests : List Request) : List Command :=
  (requests.filterMap (command? specs)).mapIdx fun i command =>
    { command with seq := UInt8.ofNat (i + 1) }

/-- One more request adds the command that it makes, with the next number, if it makes one. -/
theorem commands_concat (specs : Specs) (requests : List Request) (request : Request) :
    commands specs (requests ++ [request]) =
      commands specs requests ++ ((request.command? specs).map fun command =>
        { command with
          seq := UInt8.ofNat ((requests.filterMap (command? specs)).length + 1) }).toList := by
  rw [commands, List.filterMap_append, List.mapIdx_append, ← commands]
  cases hcommand : request.command? specs with
  | none => simp [hcommand]
  | some command => simp [hcommand]

end Request

namespace Command

/-- Whether a link carries a command. -/
def fits (kind : LinkKind) (command : Command) : Bool :=
  headerSize + command.args.length ≤ kind.maxPayload

/-- The bytes of a command on a link that carries it. -/
def wire? (kind : LinkKind) (command : Command) : Option Bytes :=
  (kind.frame command.encode).toOption.map kind.wire

/-- A link that carries a command has a frame for its payload. -/
theorem frame_of_fits {kind : LinkKind} {command : Command} (h : command.fits kind = true) :
    ∃ frame : SerialFrame, frame.payload = command.encode ∧
      frame.payload.length ≤ kind.maxPayload ∧ command.wire? kind = some (kind.wire frame) := by
  have hle : command.encode.length ≤ kind.maxPayload := by
    rw [length_encode]
    exact of_decide_eq_true h
  obtain ⟨frame, hframe, hpayload⟩ := LinkKind.exists_frame hle
  refine ⟨frame, hpayload, hpayload ▸ hle, ?_⟩
  rw [wire?, hframe]
  rfl

/-- A link that does not carry a command refuses its payload. -/
theorem frame_of_not_fits {kind : LinkKind} {command : Command} (h : command.fits kind = false) :
    (∃ error, kind.frame command.encode = .error error) ∧ command.wire? kind = none := by
  cases hframe : kind.frame command.encode with
  | ok frame =>
      have hle := (LinkKind.frame_ok_iff.mp hframe).2
      rw [length_encode] at hle
      exact absurd hle (of_decide_eq_false h)
  | error error =>
      refine ⟨⟨error, rfl⟩, ?_⟩
      rw [wire?, hframe]
      rfl

/-- Commands on the wire are the frames of those that the link carries. -/
theorem exists_frames (kind : LinkKind) (commands : List Command) :
    ∃ frames : List SerialFrame,
      frames.map kind.wire = commands.filterMap (wire? kind) ∧
      frames.map SerialFrame.payload = (commands.filter (fits kind)).map encode ∧
      ∀ frame ∈ frames, frame.payload.length ≤ kind.maxPayload := by
  induction commands with
  | nil => exact ⟨[], rfl, rfl, List.forall_mem_nil _⟩
  | cons command rest ih =>
      obtain ⟨frames, hwires, hpayloads, hsizes⟩ := ih
      cases hfits : command.fits kind with
      | true =>
          obtain ⟨frame, hpayload, hsize, hwire⟩ := frame_of_fits hfits
          refine ⟨frame :: frames, ?_, ?_, List.forall_mem_cons.mpr ⟨hsize, hsizes⟩⟩
          · rw [List.filterMap_cons_some hwire, List.map_cons, hwires]
          · rw [List.filter_cons_of_pos hfits, List.map_cons, hpayload, hpayloads, List.map_cons]
      | false =>
          obtain ⟨-, hwire⟩ := frame_of_not_fits hfits
          refine ⟨frames, ?_, ?_, hsizes⟩
          · rw [List.filterMap_cons_none hwire, hwires]
          · rw [List.filter_cons_of_neg (by rw [hfits]; decide), hpayloads]

end Command

/-! ## One call -/

namespace Client

/-- The command that a client frames when it is called with a request. -/
def next? (c : Client) (request : Request) : Option Command :=
  (request.command? c.specs).map fun command => { command with seq := c.seq + 1 }

/-- What decides about what a client sends is the same. -/
structure SendsLike (c other : Client) : Prop where
  settings : c.settings = other.settings
  specs : c.specs = other.specs
  closed : c.closed = other.closed
  seq : c.seq = other.seq
  outbound : c.outbound = other.outbound

/-- A command that is too long uses up a number and is not sent. -/
theorem transmit_too_long (c : Client) (spec : CommandSpec) (body : Bytes) (time : Timestamp)
    (limit : Duration)
    (h : Command.fits c.settings.link.kind ⟨c.seq + 1, spec.id, time, body⟩ = false) :
    SendsLike (c.transmit spec body time limit).1 { c with seq := c.seq + 1 } ∧
      ∃ error, (c.transmit spec body time limit).2 = .error error := by
  obtain ⟨⟨error, hframe⟩, -⟩ := Command.frame_of_not_fits h
  have hnone : c.transmit spec body time limit =
      ({ c.discardStale with seq := c.seq + 1 }, .error (.link spec.name (.framing error))) := by
    unfold transmit
    simp only [show c.discardStale.seq = c.seq from rfl,
      show c.discardStale.settings = c.settings from rfl, hframe]
  rw [hnone]
  exact ⟨⟨rfl, rfl, rfl, rfl, rfl⟩, _, rfl⟩

/-- A command that fits is put into the queue of what is to be sent, or waits for room in it. -/
theorem transmit_fits (c : Client) (spec : CommandSpec) (body : Bytes) (time : Timestamp)
    (limit : Duration) (haccepts : c.outbound.closed = false) (hblocks : c.outbound.lossy = false)
    {bytes : Bytes}
    (h : Command.wire? c.settings.link.kind ⟨c.seq + 1, spec.id, time, body⟩ = some bytes) :
    SendsLike (c.transmit spec body time limit).1
        { c with seq := c.seq + 1, outbound := (c.outbound.enqueue bytes).1 } ∧
      (c.transmit spec body time limit).2.toOption.bind Exchange.held =
        if c.outbound.isFull then some bytes else none := by
  have hwrite : c.outbound.write bytes = c.outbound.enqueue bytes := by
    rw [Queue.write, haccepts]
    rfl
  cases hframe : c.settings.link.kind.frame (Command.encode ⟨c.seq + 1, spec.id, time, body⟩) with
  | error error =>
      rw [Command.wire?, hframe] at h
      cases h
  | ok frame =>
      rw [Command.wire?, hframe] at h
      obtain rfl : c.settings.link.kind.wire frame = bytes := Option.some.inj h
      unfold transmit
      simp only [show c.discardStale.seq = c.seq from rfl,
        show c.discardStale.settings = c.settings from rfl,
        show c.discardStale.outbound = c.outbound from rfl, hframe, hwrite]
      cases hroom : c.outbound.isFull with
      | true =>
          rw [Queue.enqueue_of_full hroom hblocks]
          exact ⟨⟨rfl, rfl, rfl, rfl, rfl⟩, rfl⟩
      | false =>
          rw [Queue.enqueue_of_room hroom]
          exact ⟨⟨rfl, rfl, rfl, rfl, rfl⟩, rfl⟩

variable {c : Client} {request : Request}

/-- Where there is no room, what waits goes on waiting. -/
theorem resume_of_full (hfull : c.outbound.isFull = true) (hblocks : c.outbound.lossy = false)
    (bytes : Bytes) : c.resume bytes = (c, false) := by
  rw [resume, Queue.enqueue_of_full hfull hblocks]

/-- Where there is room, it is put into the queue. -/
theorem resume_of_room (hroom : c.outbound.isFull = false) (bytes : Bytes) :
    c.resume bytes = ({ c with outbound := (c.outbound.enqueue bytes).1 }, true) := by
  rw [resume, Queue.enqueue_of_room hroom]

/-- A known command with arguments that fit makes the next command. -/
theorem next?_of_ok {spec : CommandSpec} {args : Bytes}
    (hspec : c.specs.commands.command request.command = .ok spec)
    (hargs : spec.encode request.args = .ok args) :
    c.next? request = some ⟨c.seq + 1, spec.id, request.time, args⟩ := by
  rw [next?, Request.command?, hspec]
  show (((spec.encode request.args).toOption.bind _).map _) = _
  rw [hargs]
  rfl

/-- A call fails and leaves the client as it is, if the command is not known or its arguments cannot
be written. -/
theorem begin_of_none (h : c.next? request = none) :
    (c.begin request).1 = c ∧ ∃ error, (c.begin request).2 = .error error := by
  unfold begin
  split
  case h_1 => exact ⟨rfl, _, rfl⟩
  case h_2 spec hspec =>
    split
    case h_1 => exact ⟨rfl, _, rfl⟩
    case h_2 args hargs =>
      rw [next?_of_ok hspec hargs] at h
      cases h

/-- Any other call transmits the next command. -/
theorem begin_of_some (hopen : c.closed = false) {command : Command}
    (h : c.next? request = some command) :
    ∃ spec limit, command = ⟨c.seq + 1, spec.id, command.time, command.args⟩ ∧
      c.begin request = c.transmit spec command.args command.time limit := by
  unfold begin
  split
  case h_1 error hspec =>
    rw [next?, Request.command?, hspec] at h
    cases h
  case h_2 spec hspec =>
    split
    case h_1 error hargs =>
      rw [next?, Request.command?, hspec] at h
      change (((spec.encode request.args).toOption.bind _).map _) = _ at h
      rw [hargs] at h
      cases h
    case h_2 args hargs =>
      rw [next?_of_ok hspec hargs] at h
      obtain rfl := Option.some.inj h
      refine ⟨spec, request.limit.getD c.settings.timeout, rfl, ?_⟩
      rw [hopen]
      exact if_neg Bool.false_ne_true

/-! Other stages leave alone what decides about what a client sends. -/

/-- A client sends as it does itself. -/
theorem SendsLike.refl (c : Client) : c.SendsLike c :=
  ⟨rfl, rfl, rfl, rfl, rfl⟩

/-- If one client sends as another does, and that as a third, the first sends as the third. -/
theorem SendsLike.trans {first second third : Client} (h : first.SendsLike second)
    (h' : second.SendsLike third) : first.SendsLike third :=
  ⟨h.settings.trans h'.settings, h.specs.trans h'.specs, h.closed.trans h'.closed,
    h.seq.trans h'.seq, h.outbound.trans h'.outbound⟩

/-- A client that sends alike after each step does so after many. -/
theorem SendsLike.foldl {α : Type} {step : Client → α → Client}
    (hstep : ∀ c a, (step c a).SendsLike c) (c : Client) (items : List α) :
    (items.foldl step c).SendsLike c := by
  induction items generalizing c with
  | nil => exact .refl c
  | cons a rest ih => exact (ih (step c a)).trans (hstep c a)

/-- Where a payload is routed does not matter to what is sent. -/
theorem route_sends_like (c : Client) (payload : Bytes) : (c.route payload).SendsLike c := by
  unfold route
  split <;> exact ⟨rfl, rfl, rfl, rfl, rfl⟩

/-- Nor do the payloads that are dispatched. -/
theorem dispatch_sends_like (c : Client) : c.dispatch.SendsLike c :=
  (SendsLike.foldl route_sends_like _ _).trans ⟨rfl, rfl, rfl, rfl, rfl⟩

/-- Nor do the log entries that are looked at. -/
theorem correlateAll_sends_like (c : Client) : c.correlateAll.SendsLike c := by
  unfold correlateAll
  split
  case h_1 => exact .refl c
  case h_2 =>
    have hcorrelate (c : Client) (_ : Unit) : c.correlate.SendsLike c := ⟨rfl, rfl, rfl, rfl, rfl⟩
    exact SendsLike.foldl hcorrelate c _

/-- What is read from the device leaves alone what decides about what a client sends. -/
theorem handle_bytes_sends_like (c : Client) (data : Bytes) :
    (c.handle (.bytes data)).SendsLike c := by
  unfold handle
  split
  case isTrue =>
    refine SendsLike.foldl (fun c piece => ?_) c _
    have hreceived : (c.receive piece).SendsLike c := ⟨rfl, rfl, rfl, rfl, rfl⟩
    exact (correlateAll_sends_like _).trans ((dispatch_sends_like _).trans hreceived)
  case isFalse => exact .refl c

/-- So does a device that breaks off. -/
theorem handle_hangup_sends_like (c : Client) : (c.handle .hangup).SendsLike c := by
  unfold handle
  split <;> exact ⟨rfl, rfl, rfl, rfl, rfl⟩

/-- So does a poll. -/
theorem poll_sends_like (c : Client) (x : Exchange) : (c.poll x).1.SendsLike c := by
  rw [poll_fst]
  exact ⟨rfl, rfl, rfl, rfl, rfl⟩

/-- So does the meaning of a response. -/
theorem conclude_sends_like (c : Client) (x : Exchange) (response : ResponseMessage) :
    (c.conclude x response).1.SendsLike c := by
  unfold conclude
  split
  case h_1 => exact .refl c
  case h_2 =>
    split
    case h_1 => exact .refl c
    case h_2 result _ =>
      split
      case isTrue => split <;> exact .refl c
      case isFalse =>
        cases result <;> cases response.scheduledUuid? <;> exact ⟨rfl, rfl, rfl, rfl, rfl⟩

end Client

/-! ## What can happen -/

/-- A client that is called, with what nobody but the proof sees. -/
structure Sending where
  client : Client
  /-- What the client was called with, oldest first. -/
  requests : List Request
  /-- What a call holds that waits for room in the queue of what is to be sent. -/
  waiting : Option Bytes
  /-- What was taken out of this queue. -/
  taken : List Bytes

namespace Sending

/-- What was put into the queue of what is to be sent, or waits for room in it. -/
def put (d : Sending) : List Bytes :=
  d.taken ++ d.client.outbound.items ++ d.waiting.toList

/-- The client is called. The call waits if it has something to send and the queue is full. -/
def call (d : Sending) (request : Request) : Sending :=
  { d with
    client := (d.client.begin request).1
    requests := d.requests ++ [request]
    waiting := (d.client.begin request).2.toOption.bind Exchange.held }

/-- What can happen while a client is called, one call after another, and stays open. -/
inductive Reaches (settings : Settings) (specs : Specs) : Sending → Prop
  | start : Reaches settings specs ⟨.start settings specs, [], none, []⟩
  | calls {d : Sending} (h : Reaches settings specs d) (hidle : d.waiting = none)
      (request : Request) : Reaches settings specs (d.call request)
  /-- There is room for what waits. -/
  | resumes {d : Sending} (h : Reaches settings specs d) {bytes : Bytes}
      (hwaiting : d.waiting = some bytes) (hroom : d.client.outbound.isFull = false) :
      Reaches settings specs { d with
        client := { d.client with outbound := (d.client.outbound.enqueue bytes).1 }
        waiting := none }
  /-- The worker that sends takes something out of the queue. -/
  | takes {d : Sending} (h : Reaches settings specs d) (limit : Nat) :
      Reaches settings specs { d with
        client := { d.client with outbound := (d.client.outbound.take limit).1 }
        taken := d.taken ++ (d.client.outbound.take limit).2 }
  /-- Another stage of the client runs. -/
  | elsewhere {d : Sending} (h : Reaches settings specs d) {client : Client}
      (hsame : client.SendsLike d.client) : Reaches settings specs { d with client }

/-- What holds whatever a client is called with. -/
structure Sound (settings : Settings) (specs : Specs) (d : Sending) : Prop where
  configured : d.client.settings = settings ∧ d.client.specs = specs
  isOpen : d.client.closed = false
  accepts : d.client.outbound.closed = false
  blocks : d.client.outbound.lossy = false
  /-- Sequence numbers count the commands that were framed. -/
  seq : d.client.seq = UInt8.ofNat (d.requests.filterMap (Request.command? specs)).length
  put : d.put = (Request.commands specs d.requests).filterMap (Command.wire? settings.link.kind)

variable {settings : Settings} {specs : Specs} {d : Sending}

/-- The next command has the number that follows. -/
theorem Sound.commands_concat (h : d.Sound settings specs) (request : Request) :
    Request.commands specs (d.requests ++ [request]) =
      Request.commands specs d.requests ++ (d.client.next? request).toList := by
  have hseq : UInt8.ofNat ((d.requests.filterMap (Request.command? specs)).length + 1) =
      d.client.seq + 1 := by
    rw [UInt8.ofNat_add, h.seq]
    rfl
  rw [Request.commands_concat, hseq, Client.next?, h.configured.2]

/-- One more request counts once if it makes a command. -/
theorem Sound.length_concat (h : d.Sound settings specs) (request : Request) :
    ((d.requests ++ [request]).filterMap (Request.command? specs)).length =
      (d.requests.filterMap (Request.command? specs)).length +
        (d.client.next? request).toList.length := by
  rw [List.filterMap_append, List.length_append, Client.next?, h.configured.2]
  cases hcommand : request.command? specs with
  | none => rw [List.filterMap_cons_none hcommand]; rfl
  | some command => rw [List.filterMap_cons_some hcommand]; rfl

/-- A call that frames nothing puts nothing into the queue. -/
theorem call_of_none {request : Request} (h : d.client.next? request = none) :
    (d.call request).client = d.client ∧ (d.call request).waiting = none := by
  obtain ⟨hclient, error, herror⟩ := Client.begin_of_none h
  refine ⟨hclient, ?_⟩
  rw [call, herror]
  rfl

/-- Neither does a call whose command does not fit. -/
theorem Sound.call_too_long (h : d.Sound settings specs) {request : Request} {command : Command}
    (hnext : d.client.next? request = some command)
    (hfits : command.fits settings.link.kind = false) :
    (d.call request).client.SendsLike { d.client with seq := d.client.seq + 1 } ∧
      (d.call request).waiting = none ∧
      ∃ error, (d.client.begin request).2 = .error error := by
  obtain ⟨spec, limit, hcommand, hbegin⟩ := Client.begin_of_some h.isOpen hnext
  rw [hcommand, ← h.configured.1] at hfits
  obtain ⟨hsame, herror⟩ := d.client.transmit_too_long spec command.args command.time limit hfits
  rw [← hbegin] at hsame herror
  refine ⟨hsame, ?_, herror⟩
  obtain ⟨error, herror⟩ := herror
  rw [call, herror]
  rfl

/-- Any other call puts its bytes into the queue, or waits with them. -/
theorem Sound.call_fits (h : d.Sound settings specs) {request : Request} {command : Command}
    {bytes : Bytes} (hidle : d.waiting = none) (hnext : d.client.next? request = some command)
    (hwire : command.wire? settings.link.kind = some bytes) :
    (d.call request).client.SendsLike { d.client with
        seq := d.client.seq + 1
        outbound := (d.client.outbound.enqueue bytes).1 } ∧
      (d.call request).put = d.put ++ [bytes] := by
  obtain ⟨spec, limit, hcommand, hbegin⟩ := Client.begin_of_some h.isOpen hnext
  rw [hcommand, ← h.configured.1] at hwire
  obtain ⟨hsame, hheld⟩ :=
    d.client.transmit_fits spec command.args command.time limit h.accepts h.blocks hwire
  rw [← hbegin] at hsame hheld
  have hwaiting : (d.call request).waiting =
      if d.client.outbound.isFull then some bytes else none := hheld
  refine ⟨hsame, ?_⟩
  have hitems : (d.call request).client.outbound.items =
      d.client.outbound.items ++ if d.client.outbound.isFull then [] else [bytes] := by
    rw [show (d.call request).client.outbound = _ from hsame.outbound]
    exact Queue.items_enqueue_of_blocking h.blocks bytes
  show d.taken ++ (d.call request).client.outbound.items ++ (d.call request).waiting.toList = _
  rw [hitems, hwaiting, Sending.put, hidle]
  cases d.client.outbound.isFull with
  | true => simp
  | false => simp

/-- At the start nothing was asked for, and nothing is on its way. -/
theorem start_sound (settings : Settings) (specs : Specs) :
    Sound settings specs ⟨.start settings specs, [], none, []⟩ :=
  ⟨⟨rfl, rfl⟩, rfl, rfl, rfl, rfl, rfl⟩

/-- A call keeps what holds, if it numbers and puts into the queue what it frames. -/
theorem Sound.called (h : d.Sound settings specs) {request : Request} {seq : UInt8}
    {outbound : Queue Bytes}
    (hsame : (d.call request).client.SendsLike { d.client with seq, outbound })
    (haccepts : outbound.closed = false) (hblocks : outbound.lossy = false)
    (hseq : seq = d.client.seq + UInt8.ofNat (d.client.next? request).toList.length)
    (hput : (d.call request).put = d.put ++
      (d.client.next? request).toList.filterMap (Command.wire? settings.link.kind)) :
    (d.call request).Sound settings specs where
  configured := ⟨hsame.settings.trans h.configured.1, hsame.specs.trans h.configured.2⟩
  isOpen := hsame.closed.trans h.isOpen
  accepts := hsame.outbound ▸ haccepts
  blocks := hsame.outbound ▸ hblocks
  seq := by
    show _ = UInt8.ofNat ((d.requests ++ [request]).filterMap (Request.command? specs)).length
    rw [h.length_concat, UInt8.ofNat_add, ← h.seq, ← hseq]
    exact hsame.seq
  put := by
    show _ = (Request.commands specs (d.requests ++ [request])).filterMap _
    rw [hput, h.put, h.commands_concat, List.filterMap_append]

/-- The account holds when a command is asked for. -/
theorem Sound.calls (h : d.Sound settings specs) (hidle : d.waiting = none) (request : Request) :
    (d.call request).Sound settings specs := by
  cases hnext : d.client.next? request with
  | none =>
      obtain ⟨hclient, hwaiting⟩ := call_of_none hnext
      have hsame : (d.call request).client.SendsLike
          { d.client with seq := d.client.seq, outbound := d.client.outbound } := by
        rw [hclient]
        exact .refl d.client
      refine h.called hsame h.accepts h.blocks ?_ ?_
      · rw [hnext]
        exact (UInt8.add_zero _).symm
      · rw [hnext, Sending.put, hclient, hwaiting, Sending.put, hidle]
        exact (List.append_nil _).symm
  | some command =>
      cases hfits : command.fits settings.link.kind with
      | false =>
          obtain ⟨hsame, hwaiting, -⟩ := h.call_too_long hnext hfits
          obtain ⟨-, hwire⟩ := Command.frame_of_not_fits hfits
          refine h.called hsame h.accepts h.blocks ?_ ?_
          · rw [hnext]
            rfl
          · have houtbound : (d.call request).client.outbound = d.client.outbound := hsame.outbound
            rw [hnext, Sending.put, houtbound, hwaiting, Sending.put, hidle, Option.toList_some,
              List.filterMap_cons_none hwire]
            exact (List.append_nil _).symm
      | true =>
          obtain ⟨frame, -, -, hwire⟩ := Command.frame_of_fits hfits
          obtain ⟨hsame, hput⟩ := h.call_fits hidle hnext hwire
          obtain ⟨hclosed, hlossy⟩ :=
            d.client.outbound.enqueue_flags (settings.link.kind.wire frame)
          refine h.called hsame (hclosed.trans h.accepts) (hlossy.trans h.blocks) ?_ ?_
          · rw [hnext]
            rfl
          · rw [hput, hnext, Option.toList_some, List.filterMap_cons_some hwire]
            rfl

/-- The account holds when a held piece finds room. -/
theorem Sound.resumes (h : d.Sound settings specs) {bytes : Bytes}
    (hwaiting : d.waiting = some bytes) (hroom : d.client.outbound.isFull = false) :
    Sound settings specs { d with
      client := { d.client with outbound := (d.client.outbound.enqueue bytes).1 }
      waiting := none } := by
  obtain ⟨hclosed, hlossy⟩ := d.client.outbound.enqueue_flags bytes
  refine { h with accepts := hclosed.trans h.accepts, blocks := hlossy.trans h.blocks, put := ?_ }
  refine Eq.trans ?_ h.put
  simp only [Sending.put, Queue.items_enqueue_of_blocking h.blocks, hroom, hwaiting,
    Option.toList_some, Option.toList_none, List.append_nil, List.append_assoc,
    Bool.false_eq_true, if_false]

/-- The account holds when pieces are taken to be written. -/
theorem Sound.takes (h : d.Sound settings specs) (limit : Nat) :
    Sound settings specs { d with
      client := { d.client with outbound := (d.client.outbound.take limit).1 }
      taken := d.taken ++ (d.client.outbound.take limit).2 } := by
  refine { h with put := Eq.trans ?_ h.put }
  rw [Sending.put, Sending.put, d.client.outbound.items_take limit, ← List.append_assoc d.taken]

/-- The account holds whatever a client does that leaves its sending alone. -/
theorem Sound.elsewhere (h : d.Sound settings specs) {client : Client}
    (hsame : client.SendsLike d.client) : Sound settings specs { d with client } where
  configured := ⟨hsame.settings.trans h.configured.1, hsame.specs.trans h.configured.2⟩
  isOpen := hsame.closed.trans h.isOpen
  accepts := hsame.outbound ▸ h.accepts
  blocks := hsame.outbound ▸ h.blocks
  seq := hsame.seq.trans h.seq
  put := by
    rw [Sending.put, show client.outbound = _ from hsame.outbound]
    exact h.put

/-- So it holds wherever calls and workers lead. -/
theorem Reaches.sound (h : Reaches settings specs d) : d.Sound settings specs := by
  induction h with
  | start => exact start_sound settings specs
  | calls _ hidle request ih => exact ih.calls hidle request
  | resumes _ hwaiting hroom ih => exact ih.resumes hwaiting hroom
  | takes _ limit ih => exact ih.takes limit
  | elsewhere _ hsame ih => exact ih.elsewhere hsame

/-! ## Threads

A whole exchange is a call and other stages of the client, and the worker that sends takes what it
writes out of the queue. -/

/-- What is taken for the device is taken out of the queue. -/
theorem Reaches.takeOutbound (h : Reaches settings specs d) :
    Reaches settings specs { d with
      client := d.client.takeOutbound.1
      taken := d.taken ++ d.client.takeOutbound.2 } := by
  unfold Client.takeOutbound
  split
  case isTrue =>
    obtain ⟨limit, hread⟩ := Queue.read_eq_take h.sound.accepts
    rw [hread]
    exact h.takes limit
  case isFalse =>
    rw [List.append_nil]
    exact h

/-- What happens at the device is taken notice of. -/
theorem Reaches.handle (h : Reaches settings specs d) (event : DeviceEvent) :
    ∃ taken, Reaches settings specs { d with client := d.client.handle event, taken } := by
  cases event with
  | bytes data => exact ⟨d.taken, h.elsewhere (d.client.handle_bytes_sends_like data)⟩
  | hangup => exact ⟨d.taken, h.elsewhere d.client.handle_hangup_sends_like⟩
  | takes =>
      unfold Client.handle
      split
      case isTrue => exact ⟨_, h.takeOutbound⟩
      case isFalse => exact ⟨d.taken, h⟩

/-- Whatever a client hears while it waits leads to what can be reached. -/
theorem Reaches.handle_all (h : Reaches settings specs d) (events : List DeviceEvent) :
    ∃ taken, Reaches settings specs
      { d with client := events.foldl Client.handle d.client, taken } := by
  induction events generalizing d with
  | nil => exact ⟨d.taken, h⟩
  | cons event rest ih =>
      obtain ⟨taken, hone⟩ := h.handle event
      exact ih hone

/-- A call that waits puts its bytes into the queue as soon as there is room. -/
theorem Reaches.enter (h : Reaches settings specs d) (rounds : List (List DeviceEvent)) :
    ∃ d', Reaches settings specs d' ∧ d'.client = (d.client.enter d.waiting rounds).1 ∧
      d'.requests = d.requests ∧
      ((d.client.enter d.waiting rounds).2.isSome = true → d'.waiting = none) := by
  cases hwaiting : d.waiting with
  | none =>
      rw [Client.enter_none]
      exact ⟨d, h, rfl, rfl, fun _ => hwaiting⟩
  | some bytes =>
      induction rounds generalizing d with
      | nil => exact ⟨d, h, rfl, rfl, nofun⟩
      | cons events rest ih =>
          obtain ⟨taken, hhandled⟩ := h.handle_all events
          have hblocks := hhandled.sound.blocks
          unfold Client.enter
          cases hroom : (events.foldl Client.handle d.client).outbound.isFull with
          | true =>
              rw [Client.resume_of_full hroom hblocks]
              exact ih hhandled hwaiting
          | false =>
              rw [Client.resume_of_room hroom]
              exact ⟨_, hhandled.resumes hwaiting hroom, rfl, rfl, fun _ => rfl⟩

/-- A response is waited for. -/
theorem Reaches.await (h : Reaches settings specs d) (x : Exchange)
    (rounds : List (List DeviceEvent)) :
    ∃ taken, Reaches settings specs { d with client := (d.client.await x rounds).1, taken } := by
  induction rounds generalizing d with
  | nil => exact ⟨d.taken, h⟩
  | cons events rest ih =>
      obtain ⟨taken, hhandled⟩ := h.handle_all events
      have hpolled := hhandled.elsewhere ((events.foldl Client.handle d.client).poll_sends_like x)
      unfold Client.await
      split
      case h_1 polled result hpoll =>
        rw [hpoll] at hpolled
        exact ⟨taken, hpolled⟩
      case h_2 polled hpoll =>
        rw [hpoll] at hpolled
        exact ih hpolled

/-- A response is waited for, and its meaning is looked at. -/
theorem Reaches.finish (h : Reaches settings specs d) (x : Exchange)
    (rounds : List (List DeviceEvent)) :
    ∃ taken, Reaches settings specs { d with client := (d.client.finish x rounds).1, taken } := by
  obtain ⟨taken, hawaited⟩ := h.await x rounds
  unfold Client.finish
  split
  case h_1 c error hawait =>
    rw [hawait] at hawaited
    exact ⟨taken, hawaited⟩
  case h_2 c response hawait =>
    rw [hawait] at hawaited
    exact ⟨taken, hawaited.elsewhere (c.conclude_sends_like x response)⟩

/-- A whole call is a run, and leaves nothing that waits unless it waits itself. -/
theorem Reaches.send (h : Reaches settings specs d) (hidle : d.waiting = none) (request : Request)
    (events : List (List DeviceEvent)) :
    ∃ d', Reaches settings specs d' ∧ d'.client = (d.client.send request events).1 ∧
      d'.requests = d.requests ++ [request] ∧
      ((d.client.send request events).2.isSome = true → d'.waiting = none) := by
  have hcalled := h.calls hidle request
  unfold call at hcalled
  unfold Client.send
  split
  case h_1 c error hbegin =>
    rw [hbegin] at hcalled
    exact ⟨_, hcalled, rfl, rfl, fun _ => rfl⟩
  case h_2 c x hbegin =>
    rw [hbegin] at hcalled
    obtain ⟨d', hentered, hclient, hrequests, hwaiting⟩ := hcalled.enter events
    change d'.client = (c.enter x.held events).1 at hclient
    change (c.enter x.held events).2.isSome = true → _ at hwaiting
    split
    case h_1 c' henter =>
      rw [henter] at hclient
      exact ⟨d', hentered, hclient, hrequests, nofun⟩
    case h_2 c' rest henter =>
      rw [henter] at hclient hwaiting
      obtain ⟨taken, hfinished⟩ := hentered.finish x rest
      rw [hclient] at hfinished
      exact ⟨_, hfinished, rfl, hrequests, fun _ => hwaiting rfl⟩

/-! ## What arrives -/

/-- A call that fails puts nothing into the queue. -/
theorem Sound.call_fails (h : d.Sound settings specs) {request : Request}
    (hfails : ∀ command, d.client.next? request = some command →
      command.fits settings.link.kind = false) :
    (d.call request).client.outbound = d.client.outbound ∧ (d.call request).waiting = none ∧
      ∃ error, (d.client.begin request).2 = .error error := by
  cases hnext : d.client.next? request with
  | none =>
      obtain ⟨hclient, hwaiting⟩ := call_of_none hnext
      exact ⟨congrArg Client.outbound hclient, hwaiting, (Client.begin_of_none hnext).2⟩
  | some command =>
      obtain ⟨hsame, hwaiting, herror⟩ := h.call_too_long hnext (hfails command hnext)
      exact ⟨hsame.outbound, hwaiting, herror⟩

/-- What was put into the queue are frames with the commands that the link carries. -/
theorem Sound.exists_frames (h : d.Sound settings specs) :
    ∃ frames : List SerialFrame,
      d.put = frames.map settings.link.kind.wire ∧
      frames.map SerialFrame.payload =
        ((Request.commands specs d.requests).filter (Command.fits settings.link.kind)).map
          Command.encode ∧
      ∀ frame ∈ frames, frame.payload.length ≤ settings.link.kind.maxPayload := by
  obtain ⟨frames, hwires, hpayloads, hsizes⟩ :=
    Command.exists_frames settings.link.kind (Request.commands specs d.requests)
  exact ⟨frames, h.put.trans hwires.symm, hpayloads, hsizes⟩

/-- A client that is called sends what it is called with. A call whose command is not known, whose
arguments cannot be written or whose command does not fit a frame fails and puts nothing into the
queue of what is to be sent; every other call puts one byte string there. However these byte strings
are cut on the way, the receivers of the other end give one payload for each, in order, and drop
nothing; each payload is read as the command of its call, with the number that it was given when it
was framed. -/
theorem Reaches.arrives_as_called (h : Reaches settings specs d) :
    let kind := settings.link.kind
    let sent := (Request.commands specs d.requests).filter (Command.fits kind)
    (d.waiting = none → ∀ request,
      ((∀ command, d.client.next? request = some command → command.fits kind = false) →
        (d.call request).client.outbound = d.client.outbound ∧ (d.call request).waiting = none ∧
          ∃ error, (d.client.begin request).2 = .error error) ∧
      ∀ command, d.client.next? request = some command → command.fits kind = true →
        ∃ bytes, (d.call request).put = d.put ++ [bytes]) ∧
    d.put.length = sent.length ∧
    ∀ pieces : List Bytes, pieces.flatten = d.put.flatten →
      let received := (Inbound.new kind).pushAll pieces
      received.2.frames.map Message.decode = sent.map (fun command => .ok (.command command)) ∧
        received.2.drops = [] ∧ received.1.tally.errors = 0 := by
  have hsound := h.sound
  intro kind sent
  obtain ⟨frames, hput, hpayloads, hsizes⟩ := hsound.exists_frames
  refine ⟨?_, ?_, ?_⟩
  · intro hidle request
    refine ⟨hsound.call_fails, ?_⟩
    intro command hnext hfits
    obtain ⟨frame, -, -, hwire⟩ := Command.frame_of_fits hfits
    exact ⟨_, (hsound.call_fits hidle hnext hwire).2⟩
  · have hcount := congrArg List.length hpayloads
    rw [List.length_map, List.length_map] at hcount
    rw [hput, List.length_map, hcount]
  · intro pieces hpieces received
    rw [hput] at hpieces
    obtain ⟨hgiven, herrors⟩ := Inbound.push_all_wire kind hsizes hpieces
    refine ⟨?_, congrArg Received.drops hgiven, herrors⟩
    rw [show received.2.frames = _ from congrArg Received.frames hgiven, hpayloads, List.map_map]
    exact List.map_congr_left fun command _ => Message.decode_of_encode (.command command)

/-- Between two uploads over a radio link, one of more bytes than a frame carries and a command that
is not known. The second upload has the third number. -/
theorem arrives_as_called_around_failures :
    let settings : Settings := { Settings.default with
      link := { LinkSettings.default with kind := .comms } }
    let data : FieldList := ⟨[.scalar "data" .bytes], 0, by decide, by decide, by decide⟩
    let commands := Commands.ofList [⟨"upload", 7, "", data, .none⟩]
    let specs : Specs := ⟨commands.toOption.getD .empty, .empty, .empty⟩
    let upload (data : Bytes) : Request := ⟨.id 7, [.bytes data], .immediate, none⟩
    let first := Sending.call ⟨.start settings specs, [], none, []⟩ (upload [0x22, 0x69])
    let d := ((first.call (upload (List.replicate 226 0))).call ⟨.id 8, [], .immediate, none⟩).call
      (upload [])
    Reaches settings specs d ∧ d.put.length = 2 ∧
      ((Inbound.new .comms).pushAll d.put).2.frames.map Message.decode =
        [.ok (.command ⟨1, 7, .immediate, [0x22, 0x69]⟩),
          .ok (.command ⟨3, 7, .immediate, []⟩)] := by
  intro settings data commands specs upload first d
  have hfirst : Reaches settings specs first := Reaches.start.calls rfl _
  have hd : Reaches settings specs d := by
    refine ((hfirst.calls ?_ _).calls ?_ _).calls ?_ _
    · decide +kernel
    · decide +kernel
    · decide +kernel
  have hsent : (Request.commands specs d.requests).filter (Command.fits settings.link.kind) =
      [⟨1, 7, .immediate, [0x22, 0x69]⟩, ⟨3, 7, .immediate, []⟩] := by
    decide +kernel
  -- from here on the calls are not worked out again
  clear_value d
  obtain ⟨-, hcount, harrives⟩ := hd.arrives_as_called
  obtain ⟨hframes, -, -⟩ := harrives d.put rfl
  rw [hsent] at hcount hframes
  exact ⟨hd, hcount, hframes⟩

end Sending

end GroundLink
