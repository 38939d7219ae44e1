import GroundLink.CommandLine.Plan
import Std.Async.DNS
import Std.Async.Select
import Std.Async.Signal
import Std.Async.TCP
import Std.Async.Timer

/-!
# The program

Files are read from disk and the link is a TCP connection. What is read, sent and printed is settled
elsewhere; here it is only carried out.
-/

namespace GroundLink.CommandLine

open Std.Async
open Std.Net (SocketAddress)

/-- The socket of a link. -/
abbrev Socket := TCP.Socket.Client

/-- An error of the operating system in words. -/
def systemReason (error : IO.Error) : String :=
  let words (code : UInt32) (details : String) : String :=
    details.capitalize ++ s!" (os error {code.toInt32.toInt.natAbs})"
  match error with
  | .alreadyExists _ code details | .noFileOrDirectory _ code details
  | .interrupted _ code details | .invalidArgument _ code details
  | .permissionDenied _ code details | .resourceExhausted _ code details
  | .inappropriateType _ code details | .noSuchThing _ code details
  | .otherError code details | .resourceBusy code details | .resourceVanished code details
  | .unsupportedOperation code details | .hardwareFault code details
  | .unsatisfiedConstraints code details | .illegalOperation code details
  | .protocolError code details | .timeExpired code details => words code details
  | .unexpectedEof => "unexpected end of file"
  | .userError message => message

/-- Open a file as a source of definitions. -/
def readSource (path : String) : IO SourceFile := do
  try
    let content ← IO.FS.readBinFile path
    match String.fromUTF8? content with
    | some text => pure ⟨path, .ok text⟩
    | none => pure ⟨path, .error "stream did not contain valid UTF-8"⟩
  catch error => pure ⟨path, .error (systemReason error)⟩

/-- Connect to an address within some milliseconds. -/
def connectTo (address : SocketAddress) (milliseconds : Nat) : IO (Except String Socket) := do
  try
    let socket ← TCP.Socket.Client.mk
    let connected : Async Bool := do
      socket.connect address
      pure true
    let late : Async Bool := do
      sleep ⟨milliseconds⟩
      pure false
    if ← (Async.race connected late).block then pure (.ok socket)
    else pure (.error "connection timed out")
  catch error => pure (.error (systemReason error))

/-- Connect to the first address that answers. -/
def connectToAny (reason : String) (milliseconds : Nat) :
    List SocketAddress → IO (Except String Socket)
  | [] => pure (.error reason)
  | address :: rest => do
    match ← connectTo address milliseconds with
    | .ok socket => pure (.ok socket)
    | .error reason => connectToAny reason milliseconds rest

/-- Open the connection of a link. -/
def openLink (settings : LinkSettings) : IO (Except String Socket) := do
  match endpoint settings.address with
  | .error reason => pure (.error reason)
  | .ok (host, service) =>
    let host := String.ofList (host.toList.filter fun c => c != '[' && c != ']')
    let found ← (DNS.getAddrInfo host (toString service)).block.toBaseIO
    match found with
    | .error _ => pure (.error "failed to lookup address information")
    | .ok addresses =>
      let addresses := addresses.toList.map fun address => match address with
        | .v4 ip => SocketAddress.v4 ⟨ip, service⟩
        | .v6 ip => SocketAddress.v6 ⟨ip, service⟩
      connectToAny "address resolved to nothing" settings.connectMilliseconds addresses

/-- Write what the client has to send, and take notice of what is read within a poll interval. -/
def turn (socket : Socket) (client : Client) : IO Client := do
  let (client, frames) := client.takeOutbound
  let link := client.settings.link
  for frame in frames do
    try (socket.send ⟨frame.toArray⟩).block catch _ => pure ()
  if !client.isConnected then
    IO.sleep (UInt32.ofNat link.pollMilliseconds)
    return client
  try
    let timer ← (Selector.sleep ⟨link.pollMilliseconds⟩).block
    let event ← (Selectable.one #[
      .case (socket.recvSelector (max 1 link.readBuffer)) fun data => pure (some data),
      .case timer fun _ => pure none]).block
    match event with
    | none => pure client
    | some none => pure (client.handle .hangup)
    | some (some data) => pure (client.handle (.bytes data.toList))
  catch _ => pure (client.handle .hangup)

/-- Wait for room for what an exchange holds. -/
partial def awaitRoom (socket : Socket) (client : Client) (bytes : Bytes) : IO Client := do
  match client.resume bytes with
  | (client, true) => pure client
  | (client, false) => awaitRoom socket (← turn socket client) bytes

/-- Wait for the response to a command until a point in time. -/
partial def awaitResponse (socket : Socket) (client : Client) (x : Exchange) (deadline : Nat) :
    IO (Client × Except ResponseError Delivery) := do
  match client.poll x with
  | (client, some (.ok response)) => pure (client.conclude x response)
  | (client, some (.error error)) => pure (client, .error error)
  | (client, none) =>
    if deadline ≤ (← IO.monoNanosNow) then pure (client, .error x.expired)
    else awaitResponse socket (← turn socket client) x deadline

/-- Wait for the outcome of a scheduled command until a point in time. -/
partial def awaitOutcome (socket : Socket) (client : Client) (ticket : Ticket) (deadline : Nat) :
    IO (Option Answer) := do
  match client.answer? (.scheduled ticket) with
  | some answer => pure (some answer)
  | none =>
    if deadline ≤ (← IO.monoNanosNow) then pure none
    else awaitOutcome socket (← turn socket client) ticket deadline

/-- Print a report. -/
def print (asJson : Bool) (report : Report) : IO Unit := do
  let out ← IO.getStdout
  for line in report.output asJson do
    out.putStrLn line
  out.flush

/-- Whether an interrupt was asked for, from now on. -/
def watchInterrupt : IO (IO.Ref Bool) := do
  let stopped ← IO.mkRef false
  let waiter ← Signal.Waiter.mk .sigint false
  let interrupted ← waiter.wait
  let _ ← IO.mapTask (fun _ => stopped.set true) interrupted
  pure stopped

/-- Print log entries until there are enough, the link ends or an interrupt is asked for. -/
partial def printLogs (socket : Socket) (client : Client) (listener : Listener) (asJson : Bool)
    (left : Option Nat) (stopped : IO.Ref Bool) : IO Unit := do
  if left = some 0 || (← stopped.get) then return
  match client.recv listener with
  | (client, listener, some entry) =>
    print asJson (.log client.specs.logs entry)
    printLogs socket client listener asJson (left.map (· - 1)) stopped
  | (client, listener, none) =>
    if client.hasEnded listener || !client.isConnected then return
    printLogs socket (← turn socket client) listener asJson left stopped

/-- Send the request of an action and print what comes of it. -/
def carryOut (socket : Socket) (client : Client) (action : Action) (asJson : Bool)
    (request : Request) : IO (Except RunError Unit) := do
  let specs := client.specs
  let start ← IO.monoNanosNow
  match client.begin request with
  | (_, .error error) => pure (.error (.response error))
  | (client, .ok x) =>
    let client ← x.held.elim (pure client) (awaitRoom socket client)
    let (client, delivery) ← awaitResponse socket client x (start + x.limit.nanoseconds)
    let elapsed : Duration := ⟨(← IO.monoNanosNow) - start⟩
    match delivery.bind (action.followup specs request.time elapsed) with
    | .error error => pure (.error (.response error))
    | .ok (.print report) => .ok <$> print asJson report
    | .ok (.await ticket limit) =>
      let now ← IO.monoNanosNow
      let answer ← awaitOutcome socket client ticket (now + limit.nanoseconds)
      match reportOutcome ticket limit answer with
      | .error error => pure (.error error)
      | .ok report => .ok <$> print asJson report

/-- Act on an open link. -/
def act (socket : Socket) (client : Client) (action : Action) (asJson : Bool) :
    IO (Except RunError Unit) := do
  match action with
  | .logs count =>
    let (client, listener) := client.listen client.settings.logQueueSize.toNat
    .ok <$> printLogs socket client listener asJson count (← watchInterrupt)
  | action =>
    match action.request client.specs with
    | .error error => pure (.error error)
    | .ok none => pure (.ok ())
    | .ok (some request) => carryOut socket client action asJson request

/-- Carry out an invocation. -/
def execute (invocation : Invocation) : IO (Except RunError Unit) := do
  match ← invocation.plan readSource with
  | .error error => pure (.error error)
  | .ok (.print report) => .ok <$> print invocation.json report
  | .ok (.connect settings specs) =>
    match ← openLink settings.link with
    | .error reason =>
      pure (.error (.link (.connect (deviceName settings.link.address) reason)))
    | .ok socket => act socket (.start settings specs) invocation.action invocation.json

end GroundLink.CommandLine

open GroundLink.CommandLine in
/-- Do what the arguments say. -/
def main (arguments : List String) : IO UInt32 := do
  match Invocation.read arguments with
  | .error .help =>
    IO.println helpText
    pure 0
  | .error .usage =>
    IO.eprintln helpText
    pure 2
  | .ok invocation =>
    match ← execute invocation with
    | .ok () => pure 0
    | .error error =>
      IO.eprintln ("error: " ++ error.message)
      pure 1
