import GroundLink.Link.Correlator
import GroundLink.Link.Listener

/-!
# A client

A client holds the two directions of a link: the queue of frames that are to be written to the
device, and the way of what is read from it through the receivers of frames to the queue of
responses, the log listeners and the correlator of scheduled commands. Every stage is a function of
its own; threads may run them in any order.
-/

namespace GroundLink

/-- What happens at the device of a link. -/
inductive DeviceEvent where
  | bytes (data : Bytes)
  /-- What is to be written is taken, up to the size of a batch. -/
  | takes
  /-- The device is closed from outside. -/
  | hangup
deriving DecidableEq, Repr

/-- A link to an on-board computer. -/
structure Client where
  settings : Settings
  specs : Specs
  /-- Whether the device is open. -/
  isOpen : Bool
  closed : Bool
  /-- The sequence number of the last command. -/
  seq : UInt8
  /-- What is to be written to the device. -/
  outbound : Queue Bytes
  /-- What was read from the device. -/
  raw : Queue Bytes
  inbound : Inbound
  responses : Queue ResponseMessage
  logs : FanOut LogEntry
  /-- How the correlator gets log entries. -/
  correlation : Subscription
  correlator : Correlator
  /-- The responses that nobody waited for. -/
  discarded : Nat

namespace Client

/-- A client of a device that was just opened. -/
def start (settings : Settings) (specs : Specs) : Client :=
  let (logs, correlation) := FanOut.empty.subscribe (.new 0 false)
  { settings, specs
    isOpen := true
    closed := false
    seq := 0
    outbound := .new settings.link.txQueueSize.toNat false
    raw := .new settings.link.rxQueueSize.toNat false
    inbound := .new settings.link.kind
    responses := .new (max 1 settings.responseQueueSize.toNat) true
    logs, correlation
    correlator := .new settings.scheduledResponse
    discarded := 0 }

/-- Whether the link can be used. -/
def isConnected (c : Client) : Bool :=
  !c.closed && c.isOpen

/-- The number of scheduled commands without an answer. -/
def pendingCount (c : Client) : Nat :=
  c.correlator.pendingCount

/-- Take what is to be written to the device. -/
def takeOutbound (c : Client) : Client × List Bytes :=
  if c.isConnected then
    let (outbound, pieces) := c.outbound.read
    ({ c with outbound }, pieces)
  else (c, [])

/-- Take a piece that was read from the device. -/
def receive (c : Client) (piece : Bytes) : Client :=
  { c with raw := (c.raw.write piece).1 }

/-- Pass a message on to those who wait for its kind. -/
def route (c : Client) (payload : Bytes) : Client :=
  match Message.decode payload with
  | .ok (.response response) => { c with responses := (c.responses.write response).1 }
  | .ok (.log entry) => { c with logs := c.logs.send entry }
  | .ok (.command _) | .error _ => c

/-- Find the frames in what was received, and pass their messages on. -/
def dispatch (c : Client) : Client :=
  let (raw, pieces) := c.raw.read
  let (inbound, received) := c.inbound.pushAll pieces
  received.frames.foldl route { c with raw, inbound }

/-- Let the correlator see log entries. -/
def correlate (c : Client) : Client :=
  let (logs, entries) := c.logs.read c.correlation.queue
  { c with
    logs
    correlator := entries.foldl (fun correlator entry => (correlator.handleLog entry).1)
      c.correlator }

/-- Let the correlator see every log entry that is there. -/
def correlateAll (c : Client) : Client :=
  match c.logs.queue? c.correlation.queue with
  | none => c
  | some q => (List.replicate (q.size / Queue.batchSize + 1) ()).foldl (fun c _ => c.correlate) c

/-- Take notice of what happens at the device, through all stages. What is read at once is no longer
than the read buffer. -/
def handle (c : Client) (event : DeviceEvent) : Client :=
  if c.isConnected then
    match event with
    | .hangup => { c with isOpen := false }
    | .takes => c.takeOutbound.1
    | .bytes data =>
      (Bytes.pieces (max 1 c.settings.link.readBuffer.toNat) data).foldl
        (fun c piece => (c.receive piece).dispatch.correlateAll) c
  else c

/-- Close the link. Scheduled commands without an answer are given up. -/
def close (c : Client) : Client :=
  if c.closed then c
  else
    { c with
      closed := true
      isOpen := false
      outbound := c.outbound.close
      raw := c.raw.close
      responses := c.responses.close
      correlator := c.correlator.cancelAll }

/-- Register a log listener that holds at most `capacity` entries; zero is no limit. -/
def listen (c : Client) (capacity : Nat) : Client × Listener :=
  let (logs, subscription) := c.logs.subscribe (.new capacity true)
  ({ c with logs }, .new subscription)

/-- End the registration of a log listener. -/
def unlisten (c : Client) (l : Listener) : Client :=
  { c with logs := c.logs.unsubscribe l.subscription }

/-- Let a listener read the next entry. -/
def recv (c : Client) (l : Listener) : Client × Listener × Option LogEntry :=
  match c.logs.queue? l.subscription.queue with
  | none => (c, l, none)
  | some q =>
    let (next, q, entry) := l.recv q
    ({ c with logs := c.logs.modifyQueue l.subscription.queue fun _ => q }, next, entry)

/-- Let a listener read an entry several times. -/
def recvSome (c : Client) (l : Listener) : Nat → Client × Listener × List (Option LogEntry)
  | 0 => (c, l, [])
  | n + 1 =>
    let (c, l, entry) := c.recv l
    let (c, l, entries) := c.recvSome l n
    (c, l, entry :: entries)

/-- Let a listener read every entry that is there. -/
def readLogs (c : Client) (l : Listener) : Client × Listener × List LogEntry :=
  match c.logs.queue? l.subscription.queue with
  | none => (c, l, [])
  | some q =>
    let (next, q, entries) := l.read q
    ({ c with logs := c.logs.modifyQueue l.subscription.queue fun _ => q }, next, entries)

/-- The number of entries that a listener missed because its queue was full. -/
def missed (c : Client) (l : Listener) : Nat :=
  ((c.logs.queue? l.subscription.queue).map Queue.dropped).getD 0

/-- Whether no entry will ever come to a listener. -/
def hasEnded (c : Client) (l : Listener) : Bool :=
  (c.logs.queue? l.subscription.queue).all l.isClosed

end Client

end GroundLink
