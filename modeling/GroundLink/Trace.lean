import GroundLink.Json.Basic
import GroundLink.Registry.Task

/-!
# Task traces

The on-board computer records when it switches a task in and when it switches it out. A trace pairs
these records: each run of a task is a slice of time. The clock is a 32-bit counter of microseconds
and may wrap around.
-/

namespace GroundLink

/-- The direction of a switch. -/
inductive Switch where
  | switchIn
  | switchOut
deriving DecidableEq, Repr

/-- A recorded switch. -/
structure TraceEvent where
  switch : Switch
  taskId : UInt8
  /-- In microseconds. -/
  time : UInt32
deriving DecidableEq, Repr

/-- Why a trace cannot be read or paired. -/
inductive TraceError where
  | truncated (length recordSize : Nat)
  | unknownSwitch (index : Nat) (tag : UInt8)
  /-- A task is switched in while another one runs. -/
  | alreadyRunning (index : Nat) (task running : String)
  /-- A task is switched out while none runs. -/
  | notRunning (index : Nat) (task : String)
  /-- A task is switched out while another one runs. -/
  | mismatch (index : Nat) (task running : String)
  | unknownTask (index : Nat) (id : UInt8)
deriving DecidableEq, Repr

/-- The cause in words. -/
def TraceError.message : TraceError → String
  | truncated length recordSize =>
    s!"trace truncated: {length} bytes is not a multiple of {recordSize}"
  | unknownSwitch index tag => s!"record {index}: unknown event kind {tag.toNat}"
  | alreadyRunning index task running =>
    s!"record {index}: task {task} switched in while task {running} is running"
  | notRunning index task => s!"record {index}: task {task} switched out while no task is running"
  | mismatch index task running =>
    s!"record {index}: task {task} switched out but task {running} is running"
  | unknownTask index id => s!"record {index}: unknown task id {id.toNat}"

namespace Switch

/-- The byte of a direction. -/
def byte : Switch → UInt8
  | switchIn => 0
  | switchOut => 1

/-- The direction of a byte. -/
def ofByte? (byte : UInt8) : Option Switch :=
  if byte = 0 then some switchIn else if byte = 1 then some switchOut else none

/-- The name of a direction. -/
def name : Switch → String
  | switchIn => "switch_in"
  | switchOut => "switch_out"

end Switch

namespace TraceEvent

/-- The bytes of a record. -/
def size : Nat := 6

/-- The record of an event. -/
def encode (event : TraceEvent) : Bytes :=
  event.switch.byte :: event.taskId :: Bytes.ofUInt32 event.time

/-- Read records, numbered from `index`, up to the end. -/
def decodeFrom (index : Nat) : Bytes → Except TraceError (List TraceEvent)
  | tag :: task :: t3 :: t2 :: t1 :: t0 :: rest =>
    match Switch.ofByte? tag with
    | some switch => do
      let events ← decodeFrom (index + 1) rest
      pure (⟨switch, task, Bytes.toUInt32 [t3, t2, t1, t0]⟩ :: events)
    | none => .error (.unknownSwitch index tag)
  | _ => .ok []

/-- The events of a trace. -/
def decodeAll (trace : Bytes) : Except TraceError (List TraceEvent) :=
  if trace.length % size = 0 then decodeFrom 0 trace
  else .error (.truncated trace.length size)

/-- An event in a data document. -/
def toJson (event : TraceEvent) : Json :=
  .object [("kind", .string event.switch.name), ("task_id", .int event.taskId.toNat),
    ("timestamp_us", .int event.time.toNat)]

end TraceEvent

/-- One uninterrupted run of a task. -/
structure Slice where
  task : String
  taskId : Fin 32
  start : UInt32
  stop : UInt32
deriving DecidableEq, Repr

/-- How long a run took, if the clock wrapped at most once. -/
def Slice.duration (slice : Slice) : UInt32 :=
  slice.stop - slice.start

/-- The runs of tasks in the order in which they ended. -/
structure Trace where
  slices : List Slice
deriving DecidableEq, Repr

namespace Trace

/-- Pair events numbered from `index`, while `running` runs since a time. A task that still runs at
the end has no slice. -/
def pairFrom (tasks : Tasks) (index : Nat) (running : Option (TaskSpec × UInt32)) :
    List TraceEvent → Except TraceError (List Slice)
  | [] => .ok []
  | event :: rest =>
    match tasks.find? (.id event.taskId.toUInt32) with
    | none => .error (.unknownTask index event.taskId)
    | some task =>
      match event.switch, running with
      | .switchIn, none => pairFrom tasks (index + 1) (some (task, event.time)) rest
      | .switchIn, some (current, _) => .error (.alreadyRunning index task.name current.name)
      | .switchOut, none => .error (.notRunning index task.name)
      | .switchOut, some (current, start) =>
        if current.id = task.id then do
          let slices ← pairFrom tasks (index + 1) none rest
          pure (⟨task.name, task.id, start, event.time⟩ :: slices)
        else .error (.mismatch index task.name current.name)

/-- The trace of some events. -/
def ofEvents (tasks : Tasks) (events : List TraceEvent) : Except TraceError Trace :=
  (pairFrom tasks 0 none events).map Trace.mk

/-- The trace in its recorded form. -/
def decode (tasks : Tasks) (data : Bytes) : Except TraceError Trace := do
  let events ← TraceEvent.decodeAll data
  ofEvents tasks events

/-- Add a duration to the total of a task, which stands behind the others if it is new. -/
def addTotal (slice : Slice) : List (Fin 32 × String × Nat) → List (Fin 32 × String × Nat)
  | [] => [(slice.taskId, slice.task, slice.duration.toNat)]
  | (id, task, total) :: rest =>
    if id = slice.taskId then (id, task, total + slice.duration.toNat) :: rest
    else (id, task, total) :: addTotal slice rest

/-- How long each task ran, in the order of ids. -/
def totals (trace : Trace) : List (String × Nat) :=
  let found := trace.slices.foldl (fun acc slice => addTotal slice acc) []
  (found.mergeSort fun first second => first.1 ≤ second.1).map Prod.snd

/-- The time from the first switch in to the last switch out, if the clock wrapped at most once. -/
def span (trace : Trace) : UInt32 :=
  match trace.slices.head?, trace.slices.getLast? with
  | some first, some last => last.stop - first.start
  | _, _ => 0

/-- A trace in a data document. -/
def toJson (trace : Trace) : Json :=
  let slices := trace.slices.map fun slice =>
    Json.object [("task", .string slice.task), ("task_id", .int slice.taskId.val),
      ("start_us", .int slice.start.toNat), ("end_us", .int slice.stop.toNat)]
  .object [("slices", .array slices)]

end Trace

end GroundLink
