import GroundLink.Link.Exchange

/-!
# Common requests

Requests that every on-board computer answers, and what their responses mean.
-/

namespace GroundLink

namespace Request

/-- Run a command at once. -/
def immediate (command : Key) (args : List Value) : Request :=
  ⟨command, args, .immediate, none⟩

/-- Ask whether the computer is there. -/
def ping : Request :=
  immediate (.name "ping") []

/-- Restart the computer. -/
def reset : Request :=
  immediate (.name "reset") []

/-- Ask for the least free stack of each task. -/
def stackUsage : Request :=
  immediate (.name "get_stack_usage") []

/-- Ask for a number of bytes of the trace of tasks. -/
def captureTrace (length : UInt16) : Request :=
  immediate (.name "capture_trace") [.unsigned length.toUInt64]

end Request

/-- The response of a command that ran at once. -/
def Delivery.response : Delivery → Except ResponseError Response
  | immediate response => .ok response
  | scheduled ticket => .error (.unexpected ticket.command "immediate command was scheduled")

/-- The use of the stack of a task. -/
structure StackUsage where
  task : String
  taskId : Fin 32
  stackSize : UInt32
  /-- The least free stack that was ever seen. -/
  highWater : UInt32
deriving DecidableEq

namespace StackUsage

/-- A response that does not tell the use of stacks. -/
def refusal (reason : String) : ResponseError :=
  .unexpected "get_stack_usage" reason

/-- A value as a 32-bit number. -/
def wordOf? (value : Value) : Option UInt32 :=
  value.natural?.bind fun n => if n < 4294967296 then some (UInt32.ofNat n) else none

/-- The use of the stack of one task, if its mark is there. -/
def ofTask (marks : List Value) (task : TaskSpec) : Except ResponseError StackUsage :=
  match (marks[task.id.val]?).bind wordOf? with
  | some mark => .ok ⟨task.name, task.id, task.stackSize, mark⟩
  | none => .error (refusal s!"no high-water mark for task {task.id.val}")

/-- The use of the stacks of the tasks that a response names. -/
def ofResponse (tasks : Tasks) (response : Response) : Except ResponseError (List StackUsage) :=
  match response.record? with
  | none => .error (refusal "expected fields")
  | some record =>
    match (record.get? "mask").bind wordOf? with
    | none => .error (refusal "missing or invalid 'mask'")
    | some mask =>
      match (record.get? "high_water").bind Value.array? with
      | none => .error (refusal "missing 'high_water' array")
      | some marks => (tasks.inMask mask).mapM (ofTask marks)

/-- The use of a stack as JSON. -/
def toJson (usage : StackUsage) : Json :=
  .object [
    ("task", .string usage.task),
    ("task_id", .int usage.taskId.val),
    ("stack_size", .int usage.stackSize.toNat),
    ("high_water", .int usage.highWater.toNat)]

end StackUsage

/-- The schedule of tasks in a response. -/
def Trace.ofResponse (tasks : Tasks) (response : Response) : Except ResponseError Trace :=
  match response.raw? with
  | none => .error (.unexpected "capture_trace" "expected a raw response")
  | some data => (Trace.decode tasks data).mapError .trace

/-- A log entry whose signal is known. -/
structure DecodedLog where
  group : String
  signal : String
  level : Level
  timestamp : Timestamp
  record : Record

namespace DecodedLog

/-- The meaning of a log entry. -/
def ofEntry (logs : Logs) (entry : LogEntry) : Except SpecError DecodedLog := do
  let (group, signal) ← logs.signal (.id entry.group.toUInt32) (.id entry.signal.toUInt32)
  let record ← signal.decode entry.data
  pure ⟨group.name, signal.name, signal.level, entry.timestamp, record⟩

/-- A log entry on one line. -/
def text (log : DecodedLog) : String :=
  s!"[{log.timestamp.text}] {log.level.name} {log.group}.{log.signal} {log.record.display}"

/-- A log entry as JSON. -/
def toJson (log : DecodedLog) : Json :=
  .object [
    ("group", .string log.group),
    ("signal", .string log.signal),
    ("level", .string log.level.name),
    ("timestamp", .string log.timestamp.text),
    ("record", log.record.toJson)]

end DecodedLog

end GroundLink
