import GroundLink.CommandLine.Plan
import GroundLink.Simulation.Board
import GroundLink.Simulation.Directory
import GroundLink.Simulation.Offline

/-!
# Runs of the program without a device

The same run as that of the program, where the files are in memory and the link leads to a station
that answers by a script, or nowhere.
-/

namespace GroundLink.CommandLine

/-- How a run of the program ends. -/
structure Ending where
  code : UInt8
  output : List String
  /-- Why the program fails. -/
  failure : Option String
deriving DecidableEq, Repr

namespace Ending

/-- Arguments that are wrong. -/
def usage : Ending :=
  ⟨2, [], none⟩

/-- A failure. -/
def failed (message : String) : Ending :=
  ⟨1, [], some message⟩

/-- Success, or the error that prevents it. -/
def ofReports (asJson : Bool) : Except RunError (List Report) → Ending
  | .ok reports => ⟨0, reports.flatMap fun report => report.output asJson, none⟩
  | .error e => .failed e.message

end Ending

/-- An on-board computer that answers by a script. -/
structure Station where
  kind : LinkKind
  /-- The answers to its first commands. -/
  replies : List BoardScript
  /-- What it sends again and again. -/
  beacon : BoardScript
  /-- The number of commands after which it hangs up. -/
  hangup : Option Nat

namespace Station

/-- The script of a station that hangs up. -/
def goodbye : BoardScript :=
  ⟨[.hangup], 0⟩

/-- The answers to the commands that a station takes. -/
def scripts (station : Station) : List BoardScript :=
  match station.hangup with
  | none => station.replies
  | some n =>
    (List.range n).map fun k =>
      let script := (station.replies[k]?).getD ⟨[], 0⟩
      if k + 1 = n then { script with items := script.items ++ goodbye.items } else script

/-- A client that was just linked to a station. Frames of another kind are not understood. -/
def connect (station : Station) (settings : Settings) (specs : Specs) : Bench :=
  let understood := station.kind = settings.link.kind
  let board := { Board.new station.kind with
    scripts := if understood then station.scripts else [] }
  let bench : Bench := ⟨.start settings specs, board⟩
  if station.hangup = some 0 then bench.emit goodbye else bench

/-- The first log entries that a listener gets while the beacon is sent. -/
def entries (station : Station) (bench : Bench) (listener : Listener) : Nat → List LogEntry
  | 0 => []
  | n + 1 =>
    let bench := bench.emit station.beacon
    match bench.client.recv listener with
    | (_, _, none) => []
    | (client, listener, some entry) => entry :: station.entries { bench with client } listener n

end Station

/-- Carry out an action on a bench. A run of logs without an end shows nothing, and neither does a
command that waits without an end to be sent. -/
def Action.perform (action : Action) (station : Station) (bench : Bench) :
    Except RunError (List Report) := do
  let specs := bench.client.specs
  match action with
  | .logs count =>
    let (client, listener) := bench.client.listen bench.client.settings.logQueueSize.toNat
    let entries := station.entries { bench with client } listener (count.getD 0)
    pure (entries.map (Report.log specs.logs))
  | action =>
    match ← action.request specs with
    | none => pure []
    | some request =>
      let (bench, some delivery) := bench.send request | pure []
      match ← (delivery.bind (action.followup specs request.time ⟨0⟩)).mapError .response with
      | .print report => pure [report]
      | .await ticket limit =>
        let bench := bench.emit station.beacon
        let answer := bench.client.answer? (.scheduled ticket)
        pure [← reportOutcome ticket limit answer]

/-- Run the program where a link leads to a station, or where there is no network. -/
def run (openFile : String → SourceFile) (station : Option Station) (arguments : List String) :
    Ending :=
  match Invocation.read arguments with
  | .error .help => ⟨0, [], none⟩
  | .error .usage => .usage
  | .ok invocation =>
    match Id.run (invocation.plan openFile), station with
    | .error e, _ => .failed e.message
    | .ok (.print report), _ => .ofReports invocation.json (.ok [report])
    | .ok (.connect settings specs), some station =>
      .ofReports invocation.json
        (invocation.action.perform station (station.connect settings specs))
    | .ok (.connect settings _), none =>
      let address := settings.link.address
      let reason := match endpoint address with
        | .error fault => fault
        | .ok (host, _) => Offline.reason host
      .failed (LinkError.connect (deviceName address) reason).message

end GroundLink.CommandLine
