import GroundLink.Decimal.Text
import GroundLink.Link.Request

/-!
# Reports

What the program prints: a text for people, or the same as one line of JSON. Columns of numbers are
aligned on the right.
-/

namespace GroundLink.CommandLine

/-- A result to be printed. -/
structure Report where
  /-- Line by line. -/
  lines : List String
  json : Json

/-- The output for a report. -/
def Report.output (report : Report) (asJson : Bool) : List String :=
  if asJson then [report.json.text] else report.lines

namespace Report

/-- A text with blanks before it, at least `width` characters long. -/
def alignRight (width : Nat) (text : String) : String :=
  String.ofList (List.replicate (width - text.length) ' ') ++ text

/-- A text with blanks behind it, at least `width` characters long. -/
def alignLeft (width : Nat) (text : String) : String :=
  text ++ String.ofList (List.replicate (width - text.length) ' ')

/-- A ratio with one decimal, a half going to the even neighbour. -/
def oneDecimal (ratio : Nat × Nat) : String :=
  let tenths := Binary.roundHalfEven (ratio.1 * 10) ratio.2
  s!"{tenths / 10}.{tenths % 10}"

/-- A ping that took some time. -/
def ping (time : Duration) : Report :=
  let milliseconds := Double.ofRatio false time.nanoseconds 1000000
  ⟨["pong in " ++ oneDecimal milliseconds.ratio ++ " ms"],
    .object [("round_trip_ms", .double milliseconds)]⟩

/-- A reset. -/
def reset : Report :=
  ⟨["reset sent"], Response.none.toJson⟩

/-- A response. -/
def response (r : Response) : Report :=
  ⟨[r.display], r.toJson⟩

/-- A command that will run later. -/
def scheduled (ticket : Ticket) (time : Timestamp) : Report :=
  ⟨[s!"scheduled '{ticket.command}' as uuid {ticket.uuid.toNat}"],
    .object [
      ("command", .string ticket.command),
      ("uuid", .int ticket.uuid.toNat),
      ("at", .string time.text)]⟩

/-- A log entry. One whose signal is not known is shown as it is. -/
def log (logs : Logs) (entry : LogEntry) : Report :=
  match DecodedLog.ofEntry logs entry with
  | .ok log => ⟨[log.text], log.toJson⟩
  | .error _ =>
    let data := Text.hex entry.data
    ⟨[s!"[{entry.timestamp.text}] {entry.group.toNat}.{entry.signal.toNat} {data}"],
      .object [
        ("group", .int entry.group.toNat),
        ("signal", .int entry.signal.toNat),
        ("timestamp", .string entry.timestamp.text),
        ("data", .string data)]⟩

/-- A row of the table of stacks. -/
def stackRow (id task size free : String) : String :=
  alignRight 3 id ++ "  " ++ alignLeft 22 task ++ " " ++ alignRight 10 size ++ " " ++
    alignRight 10 free

/-- The use of stacks. -/
def stackTable (usage : List StackUsage) : Report :=
  let row (u : StackUsage) : String :=
    stackRow (toString u.taskId.val) u.task (toString u.stackSize.toNat)
      (toString u.highWater.toNat)
  ⟨stackRow "id" "task" "stack" "free" :: usage.map row, .array (usage.map StackUsage.toJson)⟩

/-- The share of a task in the time of a trace, in percent. -/
def share (total span : Nat) : String :=
  let hundredfold := Double.mul (Double.ofInt total) (Double.ofInt 100)
  let percent := hundredfold.div (Double.ofInt (max 1 span))
  alignRight 6 (oneDecimal percent.ratio) ++ "%"

/-- A trace of tasks. -/
def trace (t : Trace) : Report :=
  let span := t.span.toNat
  let row : String × Nat → String := fun (task, total) =>
    "  " ++ alignLeft 22 task ++ " " ++ alignRight 10 (toString total) ++ " us " ++
      share total span
  ⟨s!"{t.slices.length} slices over {span} us" :: t.totals.map row, t.toJson⟩

/-- The number of definitions. -/
def check (specs : Specs) : Report :=
  let commands := specs.commands.size
  let groups := specs.logs.size
  let signals := specs.logs.signalCount
  let tasks := specs.tasks.size
  ⟨[s!"{commands} commands, {groups} log groups ({signals} signals), {tasks} tasks"],
    .object [
      ("commands", .int commands),
      ("log_groups", .int groups),
      ("log_signals", .int signals),
      ("tasks", .int tasks)]⟩

end Report

end GroundLink.CommandLine
