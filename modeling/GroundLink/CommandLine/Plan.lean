import GroundLink.CommandLine.Arguments
import GroundLink.CommandLine.Report

/-!
# What an invocation amounts to

Settings and definitions are loaded first. If only they are to be checked that is all; else a link
is opened and the action becomes a request, whose delivery is reported.
-/

namespace GroundLink.CommandLine

/-- Why the program fails. -/
inductive RunError where
  | link (error : LinkError)
  | response (error : ResponseError)
  | spec (error : SpecError)
  /-- Arguments that do not fit the fields of a command. -/
  | arguments (error : CommandError)
  | time (text : String) (error : Timestamp.ReadError)
  /-- A scheduled command gave no answer in time. -/
  | noAnswer (ticket : Ticket) (limit : Duration)
  /-- The settings name no definitions to be checked. -/
  | noSpecs
deriving Repr

/-- The cause in words. -/
def RunError.message : RunError → String
  | link error => error.message
  | response error => error.message
  | spec error => error.message
  | arguments error => error.message
  | time text error => s!"invalid time '{text}': {error.message}"
  | noAnswer ticket limit =>
    s!"no response from '{ticket.command}' (uuid {ticket.uuid.toNat}) within {limit.text}"
  | noSpecs => "no spec files configured; pass --config with a 'specs' section"

/-- What is left to do when everything is loaded. -/
inductive Plan where
  | print (report : Report)
  /-- Open a link and act on it. -/
  | connect (settings : Settings) (specs : Specs)

namespace Invocation

/-- The settings of an invocation. Options win over the file. -/
def settings {m : Type → Type} [Monad m] (invocation : Invocation)
    (openFile : String → m SourceFile) : m (Except RunError Settings) := do
  let base : Except LinkError Settings ← match invocation.settingsPath with
    | some path => do pure (Settings.ofFile (← openFile path))
    | none => pure (.ok .default)
  pure ((base.mapError .link).map fun settings =>
    { settings with
      link := { settings.link with
        address := invocation.address.getD settings.link.address
        kind := invocation.link.getD settings.link.kind } })

/-- Load what an invocation needs. -/
def plan {m : Type → Type} [Monad m] (invocation : Invocation)
    (openFile : String → m SourceFile) : m (Except RunError Plan) := do
  match ← invocation.settings openFile with
  | .error e => pure (.error e)
  | .ok settings =>
    let files := settings.specs
    let isCheck := invocation.action matches .check
    if isCheck && files.isEmpty then pure (.error .noSpecs)
    else
      let commands ← files.commands.mapM openFile
      let logs ← files.logs.mapM openFile
      let tasks ← files.tasks.mapM openFile
      match Specs.ofFiles commands logs tasks files.order with
      | .error e => pure (.error (.link (.specs e)))
      | .ok specs =>
        pure (.ok (if isCheck then .print (.check specs) else .connect settings specs))

end Invocation

/-- A command by id, decimal or hexadecimal, or by name. -/
def commandKey (name : String) : Key :=
  let id := match name.toList with
    | '0' :: 'x' :: digits | '0' :: 'X' :: digits => Numeral.readUnsigned 16 16 digits
    | digits => Numeral.readUnsigned 10 16 digits
  match id with
  | .ok n => .id (UInt32.ofNat n)
  | .error _ => .name name

/-- The device of a link to an address. -/
def deviceName (address : String) : String :=
  "tcp://" ++ address

/-- The host of an address and the number of the service there. -/
def endpoint (address : String) : Except String (String × UInt16) :=
  let reversed := address.toList.reverse
  let service := (reversed.takeWhile (· != ':')).reverse
  match reversed.dropWhile (· != ':') with
  | [] => .error "invalid socket address"
  | _ :: host =>
    match Numeral.readUnsigned 10 16 service with
    | .error _ => .error "invalid port value"
    | .ok n => .ok (String.ofList host.reverse, UInt16.ofNat n)

/-- The length of some seconds. -/
def durationOf (seconds : Double) : Duration :=
  if seconds.isNegative || !seconds.isFinite then ⟨0⟩
  else
    let (num, den) := seconds.ratio
    ⟨Binary.roundHalfEven (num * 1000000000) den⟩

namespace Action

/-- The request that sends a command given by texts. -/
def requestOf (specs : Specs) (name : String) (args : List String) (time : Option String) :
    Except RunError Request := do
  let spec ← (specs.commands.command (commandKey name)).mapError .spec
  let values ← (spec.read args).mapError .arguments
  let timestamp ← match time with
    | some text => (Timestamp.read text).mapError (.time text)
    | none => pure Timestamp.immediate
  pure ⟨.id spec.id.toUInt32, values, timestamp, none⟩

/-- The request of an action, if it makes one. -/
def request (specs : Specs) : Action → Except RunError (Option Request)
  | ping => .ok (some .ping)
  | reset => .ok (some .reset)
  | stack => .ok (some .stackUsage)
  | trace length => .ok (some (.captureTrace length))
  | send name args time _ => (requestOf specs name args time).map some
  | logs _ | check => .ok none

/-- The report of a response to a command that ran at once. -/
def report (specs : Specs) (action : Action) (elapsed : Duration) (response : Response) :
    Except ResponseError Report :=
  match action with
  | ping => .ok (.ping elapsed)
  | reset => .ok .reset
  | stack => (StackUsage.ofResponse specs.tasks response).map .stackTable
  | trace _ => (Trace.ofResponse specs.tasks response).map .trace
  | send .. | logs _ | check => .ok (.response response)

/-- What follows a delivery. -/
inductive Followup where
  | print (report : Report)
  /-- The outcome of a scheduled command is awaited. -/
  | await (ticket : Ticket) (limit : Duration)

/-- What follows the delivery of a request that was made for a time. -/
def followup (specs : Specs) (action : Action) (time : Timestamp) (elapsed : Duration)
    (delivery : Delivery) : Except ResponseError Followup :=
  match action, delivery with
  | send _ _ _ none, .scheduled ticket => .ok (.print (.scheduled ticket time))
  | send _ _ _ (some seconds), .scheduled ticket => .ok (.await ticket (durationOf seconds))
  | action, delivery => do
    let response ← delivery.response
    pure (.print (← action.report specs elapsed response))

end Action

/-- What the outcome of a scheduled command amounts to. -/
def reportOutcome (ticket : Ticket) (limit : Duration) : Option Answer → Except RunError Report
  | some (.ok response) => .ok (.response response)
  | some (.error e) => .error (.response e)
  | none => .error (.noAnswer ticket limit)

end GroundLink.CommandLine
