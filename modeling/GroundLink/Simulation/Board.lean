import GroundLink.Link.Request

/-!
# A scripted on-board computer

A board answers the frames that are written to it with scripts that were laid down before: one
script for each frame, in order. A bench is a board with a client on it, for runs without a device.
-/

namespace GroundLink

/-- What a board does. -/
inductive BoardItem where
  /-- Send a response. Its sequence number is that of the last command and an offset. -/
  | response (offset : UInt8) (body : Bytes)
  | log (entry : LogEntry)
  /-- Send a payload in a frame. -/
  | payload (data : Bytes)
  /-- Send bytes without a frame. -/
  | raw (data : Bytes)
  /-- Let a read fail. -/
  | stumble
  /-- Break off. -/
  | hangup

/-- What a board does in answer to a frame. -/
structure BoardScript where
  items : List BoardItem
  /-- The most bytes handed over at once; zero is no limit. -/
  chunk : Nat

/-- A scripted board. -/
structure Board where
  kind : LinkKind
  /-- The answers to the next frames. -/
  scripts : List BoardScript
  /-- The number of next writes that fail. -/
  failures : Nat
  /-- The sequence number of the last command. -/
  seq : UInt8
  /-- What was written to it. -/
  written : Bytes

namespace Board

/-- A board without scripts. -/
def new (kind : LinkKind) : Board :=
  ⟨kind, [], 0, 0, []⟩

/-- A payload as it is sent, if it fits a frame. -/
def wire (board : Board) (payload : Bytes) : Bytes :=
  match board.kind.frame payload with
  | .ok frame => board.kind.wire frame
  | .error _ => []

/-- What an item brings about at the device. -/
def events (board : Board) (chunk : Nat) (item : BoardItem) : List DeviceEvent :=
  let send (data : Bytes) : List DeviceEvent :=
    if chunk = 0 then [.bytes data] else (Bytes.pieces chunk data).map .bytes
  match item with
  | .response offset body =>
    send (board.wire (ResponseMessage.encode ⟨board.seq + offset, body⟩))
  | .log entry => send (board.wire entry.encode)
  | .payload data => send (board.wire data)
  | .raw data => send data
  | .stumble => []
  | .hangup => [.hangup]

/-- What a script brings about at the device. -/
def play (board : Board) (script : BoardScript) : List DeviceEvent :=
  script.items.flatMap (board.events script.chunk)

/-- Where a frame holds the sequence number of its command. -/
def seqOffset (board : Board) : Nat :=
  match board.kind with
  | .serial => 4
  | .comms => 7

/-- Write a frame to the board, and give what its answer brings about. -/
def write (board : Board) (frame : Bytes) : Board × List DeviceEvent :=
  if 0 < board.failures then ({ board with failures := board.failures - 1 }, [])
  else
    let board := { board with
      seq := (frame[board.seqOffset]?).getD board.seq
      written := board.written ++ frame }
    match board.scripts with
    | [] => (board, [])
    | script :: rest => ({ board with scripts := rest }, board.play script)

/-- Write frames one after another. -/
def writeAll (board : Board) : List Bytes → Board × List DeviceEvent
  | [] => (board, [])
  | frame :: rest =>
    let (board, first) := board.write frame
    let (board, last) := board.writeAll rest
    (board, first ++ last)

end Board

/-- A client on a scripted board. -/
structure Bench where
  client : Client
  board : Board

namespace Bench

/-- Open a device on a board and a client on it. -/
def connect (settings : Settings) (specs : Specs) (device : String) (isOpen : Bool)
    (refusal : Option String) : Except LinkError Bench :=
  if isOpen then .error (.alreadyConnected device)
  else
    match refusal with
    | some reason => .error (.connect device reason)
    | none => .ok ⟨.start settings specs, .new settings.link.kind⟩

/-- Let the board do something by itself. -/
def emit (bench : Bench) (script : BoardScript) : Bench :=
  { bench with client := (bench.board.play script).foldl Client.handle bench.client }

/-- Write what the client has to send, and give what the answers bring about. -/
def flush (bench : Bench) : Bench × List DeviceEvent :=
  let (client, frames) := bench.client.takeOutbound
  let (board, events) := bench.board.writeAll frames
  (⟨client, board⟩, events)

/-- Send a command and wait for its response. A wait of no length is over before the answer. Nothing
is given if there never is room for the command in the queue of what is to be sent. -/
def send (bench : Bench) (request : Request) : Bench × Option (Except ResponseError Delivery) :=
  match bench.client.begin request with
  | (client, .error e) => ({ bench with client }, some (.error e))
  | (client, .ok x) =>
    let (bench, events) := { bench with client }.flush
    match bench.client.enter x.held [events] with
    | (client, none) => ({ bench with client }, none)
    | (client, some rounds) =>
      -- what had to wait is written now
      let (bench, late) := { bench with client }.flush
      let events := rounds.flatten ++ late
      if x.limit.nanoseconds = 0 then
        ({ bench with client := events.foldl Client.handle bench.client }, some (.error x.expired))
      else
        let (client, result) := bench.client.finish x [events]
        ({ bench with client }, some result)

end Bench

end GroundLink
