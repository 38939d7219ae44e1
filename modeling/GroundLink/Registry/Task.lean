import GroundLink.Registry.Error

/-!
# Definitions of tasks

The tasks of the on-board computer. An id is the number of a bit in a 32-bit mask, so a mask stands
for a set of tasks, and the index of tasks has a slot for each id.
-/

namespace GroundLink

/-- The definition of a task. -/
structure TaskSpec where
  name : String
  id : Fin 32
  stackSize : UInt32
  priority : UInt8
  /-- The on-board table has room for 21 characters. -/
  name_length : name.length ≤ 21
deriving DecidableEq

instance : Entry TaskSpec where
  name := TaskSpec.name
  id spec := spec.id.val

namespace TaskSpec

/-- The largest id. -/
def maxId : Nat := 31

/-- The most characters of a name. -/
def maxNameLength : Nat := 21

/-- A task with its id and name checked. -/
def make (name : String) (id : Nat) (stackSize : UInt32) (priority : UInt8) :
    Except TaskError TaskSpec :=
  if hid : id ≤ maxId then
    if hname : name.length ≤ maxNameLength then
      .ok ⟨name, ⟨id, Nat.lt_succ_of_le hid⟩, stackSize, priority, hname⟩
    else .error (.nameTooLong name name.length maxNameLength)
  else .error (.idOutOfRange name id maxId)

/-- The bit of a task in a mask. -/
def bit (spec : TaskSpec) : UInt32 :=
  1 <<< UInt32.ofNat spec.id.val

end TaskSpec

/-- Where the tasks of a list are: a slot for each id, and the positions by folded name. -/
structure TaskIndex where
  slots : Vector (Option Nat) 32
  byName : Std.TreeMap String Nat

namespace TaskIndex

/-- The index of no tasks. -/
def empty : TaskIndex :=
  ⟨Vector.replicate 32 none, ∅⟩

/-- Index the tasks of a list from a position on. This ends at the first that clashes with one
before it. A clash of ids goes before a clash of names. -/
def extend (all : List TaskSpec) (index : TaskIndex) (position : Nat) :
    List TaskSpec → Except Clash TaskIndex
  | [] => .ok index
  | task :: rest =>
    match index.slots[task.id] with
    | some previous =>
      .error (.duplicateId .task task.id (all[previous]?.elim "" TaskSpec.name) task.name)
    | none =>
      let slots := index.slots.set task.id (some position)
      let (taken, byName) := index.byName.containsThenInsert (foldName task.name) position
      if taken then .error (.duplicateName .task task.name)
      else extend all ⟨slots, byName⟩ (position + 1) rest

/-- The position of the task with an id. An id beyond the slots is that of no task. -/
def slot? (index : TaskIndex) (id : Nat) : Option Nat :=
  index.slots[id]?.join

/-- The position of the task that a key names. -/
def find? (index : TaskIndex) (key : Key) : Option Nat :=
  match key with
  | .name name => index.byName[foldName name]?
  | .id id => index.slot? id.toNat

end TaskIndex

/-- The tasks of the on-board computer in the order of their definition, and their index. -/
structure Tasks where
  entries : List TaskSpec
  index : TaskIndex
  /-- The index is that of the tasks. -/
  built : TaskIndex.empty.extend entries 0 entries = .ok index

namespace Tasks

/-- The tasks of a list. -/
def ofList (specs : List TaskSpec) : Except TaskError Tasks :=
  match h : TaskIndex.empty.extend specs 0 specs with
  | .error clash => .error (.clash clash)
  | .ok index => .ok ⟨specs, index, h⟩

/-- No tasks. -/
def empty : Tasks :=
  ⟨[], .empty, rfl⟩

/-- The task that a key names, if there is one. -/
def find? (tasks : Tasks) (key : Key) : Option TaskSpec :=
  (tasks.index.find? key).bind (tasks.entries[·]?)

/-- The task that a key names. -/
def task (tasks : Tasks) (key : Key) : Except SpecError TaskSpec :=
  match tasks.find? key with
  | some spec => .ok spec
  | none => .error (.notFound .task key)

/-- The mask of the tasks that keys name. -/
def maskOf (tasks : Tasks) (keys : List Key) : Except SpecError UInt32 :=
  keys.foldlM (fun mask key => (tasks.task key).map fun spec => mask ||| spec.bit) 0

/-- The tasks of a mask in the order of their ids. Bits without a task are passed over. -/
def inMask (tasks : Tasks) (mask : UInt32) : List TaskSpec :=
  (List.range 32).filterMap fun bit =>
    if mask.toNat.testBit bit then (tasks.index.slot? bit).bind (tasks.entries[·]?) else none

/-- The number of tasks. -/
def size (tasks : Tasks) : Nat :=
  tasks.entries.length

end Tasks

end GroundLink
