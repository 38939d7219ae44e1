import GroundLink.Link.Client

/-!
# Exchanges

One command is sent and its response awaited. The response is told from others by its sequence
number; others are discarded and counted. A command that is to run at once gives its response, a
scheduled one is acknowledged and gives a ticket.

A command is put into the queue of what is to be sent. If the queue is full, the call waits for room
first; no limit of time ends this wait.
-/

namespace GroundLink

/-- A command that a client is asked to send. -/
structure Request where
  command : Key
  args : List Value
  /-- When it is to run. -/
  time : Timestamp
  /-- How long the response is waited for, if not as the settings say. -/
  limit : Option Duration

/-- What a command gives. -/
inductive Delivery where
  | immediate (response : Response)
  /-- The command will run later. -/
  | scheduled (ticket : Ticket)

/-- A command that was sent. -/
structure Exchange where
  spec : CommandSpec
  time : Timestamp
  limit : Duration
  seq : UInt8
  /-- What has to wait for room in the queue of what is to be sent. -/
  held : Option Bytes

namespace Exchange

/-- The error of an exchange that the link broke off. -/
def broken (x : Exchange) : ResponseError :=
  .link x.spec.name .closed

/-- The error of an exchange without a response. -/
def expired (x : Exchange) : ResponseError :=
  .timeout x.spec.name x.limit

/-- The response to a sequence number among some, and the number of responses before it. Those
behind it are lost. -/
def select (seq : UInt8) : List ResponseMessage → Nat × Option ResponseMessage
  | [] => (0, none)
  | response :: rest =>
    if response.seq = seq then (0, some response)
    else
      let (others, found) := select seq rest
      (others + 1, found)

end Exchange

namespace Client

/-- Discard the responses that are left from earlier exchanges. -/
def discardStale (c : Client) : Client :=
  let (responses, stale) := c.responses.drain
  { c with responses, discarded := c.discarded + stale.length }

/-- Put a command into the queue of what is to be sent, if there is room. The sequence number is
used up even if the command does not fit a frame. -/
def transmit (c : Client) (spec : CommandSpec) (body : Bytes) (time : Timestamp)
    (limit : Duration) : Client × Except ResponseError Exchange :=
  let c := c.discardStale
  let seq := c.seq + 1
  let c := { c with seq }
  let kind := c.settings.link.kind
  match kind.frame (Command.encode ⟨seq, spec.id, time, body⟩) with
  | .error e => (c, .error (.link spec.name (.framing e)))
  | .ok frame =>
    match c.outbound.write (kind.wire frame) with
    | (outbound, .accepted) | (outbound, .lost) =>
      ({ c with outbound }, .ok ⟨spec, time, limit, seq, none⟩)
    | (_, .waits) => (c, .ok ⟨spec, time, limit, seq, some (kind.wire frame)⟩)
    | (_, .refused) => (c, .error (.link spec.name .queue))

/-- Find the command of a request and send it. -/
def begin (c : Client) (request : Request) : Client × Except ResponseError Exchange :=
  match c.specs.commands.command request.command with
  | .error e => (c, .error (.spec e))
  | .ok spec =>
    match spec.encode request.args with
    | .error e => (c, .error (.body e))
    | .ok body =>
      if c.closed then (c, .error (.link spec.name .closed))
      else c.transmit spec body request.time (request.limit.getD c.settings.timeout)

/-- Put what had to wait into the queue of what is to be sent, and say whether there was room. -/
def resume (c : Client) (bytes : Bytes) : Client × Bool :=
  match c.outbound.enqueue bytes with
  | (_, .waits) => (c, false)
  | (outbound, _) => ({ c with outbound }, true)

/-- Wait for room for what an exchange holds, if it holds anything, while the device does one thing
after another. What the device does afterwards is given, unless there never is room. -/
def enter (c : Client) : Option Bytes → List (List DeviceEvent) →
    Client × Option (List (List DeviceEvent))
  | none, rounds => (c, some rounds)
  | some _, [] => (c, none)
  | some bytes, events :: rest =>
    match (events.foldl handle c).resume bytes with
    | (c, true) => (c, some rest)
    | (c, false) => c.enter (some bytes) rest

/-- Look for the response in one batch of responses. -/
def poll (c : Client) (x : Exchange) : Client × Option (Except ResponseError ResponseMessage) :=
  let (responses, batch) := c.responses.read
  let (others, found) := Exchange.select x.seq batch
  let c := { c with responses, discarded := c.discarded + others }
  match found with
  | some response => (c, some (.ok response))
  | none => (c, if responses.ended || !c.isOpen then some (.error x.broken) else none)

/-- Wait for the response while the device does one thing after another. The wait is over when
nothing more happens. -/
def await (c : Client) (x : Exchange) :
    List (List DeviceEvent) → Client × Except ResponseError ResponseMessage
  | [] => (c, .error x.expired)
  | events :: rest =>
    match (events.foldl handle c).poll x with
    | (c, some result) => (c, result)
    | (c, none) => c.await x rest

/-- The meaning of the response to an exchange. -/
def conclude (c : Client) (x : Exchange) (response : ResponseMessage) :
    Client × Except ResponseError Delivery :=
  match response.resultByte? with
  | none => (c, .error (.short x.spec.name))
  | some code =>
    match ResultCode.ofByte? code with
    | none => (c, .error (.unknownResult x.spec.name code))
    | some result =>
      if x.time.isImmediate then
        if result = .success then
          (c, ((x.spec.decodeSuccess response.data).map .immediate).mapError .body)
        else (c, .error (.rejected x.spec.name result))
      else
        match result, response.scheduledUuid? with
        | .scheduled, some uuid =>
          let (correlator, registered) := c.correlator.register uuid x.spec
          ({ c with correlator }, registered.map .scheduled)
        | .scheduled, none =>
          (c, .error (.unexpected x.spec.name "scheduled acknowledgement without a uuid"))
        | .success, _ => (c, .error (.notScheduled x.spec.name result))
        | result, _ => (c, .error (.rejected x.spec.name result))

/-- What a delivery has given so far. -/
def answer? (c : Client) : Delivery → Option Answer
  | .immediate response => some (.ok response)
  | .scheduled ticket => c.correlator.answer? ticket

/-- Wait for the response and find its meaning. -/
def finish (c : Client) (x : Exchange) (events : List (List DeviceEvent)) :
    Client × Except ResponseError Delivery :=
  match c.await x events with
  | (c, .error e) => (c, .error e)
  | (c, .ok response) => c.conclude x response

/-- Send a command and wait for its response, while the device does one thing after another. Nothing
is given if the command still waits to be sent at the end. -/
def send (c : Client) (request : Request) (events : List (List DeviceEvent)) :
    Client × Option (Except ResponseError Delivery) :=
  match c.begin request with
  | (c, .error e) => (c, some (.error e))
  | (c, .ok x) =>
    match c.enter x.held events with
    | (c, none) => (c, none)
    | (c, some rest) =>
      let (c, result) := c.finish x rest
      (c, some result)

end Client

end GroundLink
