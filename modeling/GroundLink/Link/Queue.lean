/-!
# Queues

A queue holds items between the stages of a link. Its writers wait while it is full, or lose the
new item if the queue is lossy. Closing a queue puts an end mark behind the items; a full queue has
no room for the mark, so a reader also looks whether a closed queue has run empty.

A write first looks whether the queue is closed and then puts the item in; a close first refuses
writers and then puts the mark in. Threads may run between the two halves, so each half is a
function of its own.
-/

namespace GroundLink

/-- What a queue holds. -/
inductive Queued (α : Type) where
  | item (a : α)
  /-- No item follows. -/
  | stop
deriving DecidableEq, Repr

/-- A queue of a link. -/
structure Queue (α : Type) where
  /-- The most elements held; zero is no limit. -/
  capacity : Nat
  /-- Whether a new item is lost while the queue is full. -/
  lossy : Bool
  /-- Oldest first. -/
  elements : List (Queued α)
  /-- Whether writers are refused. -/
  closed : Bool
  /-- Whether a reader has found the end. -/
  ended : Bool
  /-- Items lost. -/
  dropped : Nat
deriving Repr

/-- What became of a write. -/
inductive Written where
  | accepted
  /-- The queue was full and lossy. -/
  | lost
  /-- The queue is closed. -/
  | refused
  /-- The queue is full; the writer waits for room. -/
  | waits
deriving DecidableEq, Repr

namespace Queue

variable {α : Type}

/-- The most items that one read gives. -/
def batchSize : Nat := 64

/-- What a writer is told when the queue is closed. -/
def refusal : String := "destination closed"

/-- An empty queue. -/
def new (capacity : Nat) (lossy : Bool) : Queue α :=
  ⟨capacity, lossy, [], false, false, 0⟩

/-- The number of elements, an end mark included. -/
def size (q : Queue α) : Nat :=
  q.elements.length

/-- Whether there is no room. -/
def isFull (q : Queue α) : Bool :=
  q.capacity != 0 && q.capacity ≤ q.size

/-- Put an item in, whether or not the queue is closed: the second half of a write. -/
def enqueue (q : Queue α) (a : α) : Queue α × Written :=
  if q.isFull then
    if q.lossy then ({ q with dropped := q.dropped + 1 }, .lost) else (q, .waits)
  else ({ q with elements := q.elements ++ [.item a] }, .accepted)

/-- Write an item. -/
def write (q : Queue α) (a : α) : Queue α × Written :=
  if q.closed then (q, .refused) else q.enqueue a

/-- Refuse further writers: the first half of a close. -/
def refuse (q : Queue α) : Queue α :=
  { q with closed := true }

/-- Put the end mark in if there is room: the second half of a close. -/
def putStop (q : Queue α) : Queue α :=
  if q.isFull then q else { q with elements := q.elements ++ [.stop] }

/-- Close the queue. Items in it can still be read. -/
def close (q : Queue α) : Queue α :=
  if q.closed then q else q.refuse.putStop

/-- The first `limit` items up to an end mark, what is left behind them, and whether the mark was
passed. -/
def takeItems (limit : Nat) : List (Queued α) → List α × List (Queued α) × Bool
  | [] => ([], [], false)
  | element :: rest =>
    match limit, element with
    | 0, _ => ([], element :: rest, false)
    | _ + 1, .stop => ([], rest, true)
    | limit + 1, .item a =>
      let (items, rest, ended) := takeItems limit rest
      (a :: items, rest, ended)

/-- Take items out. -/
def take (q : Queue α) (limit : Nat) : Queue α × List α :=
  let (items, rest, ended) := takeItems limit q.elements
  ({ q with elements := rest, ended := q.ended || ended }, items)

/-- Read what is there, up to the size of a batch. A reader finds the end at the mark, or when the
queue is closed and empty. -/
def read (q : Queue α) : Queue α × List α :=
  if q.ended then (q, [])
  else if q.closed && q.elements.isEmpty then ({ q with ended := true }, [])
  else q.take batchSize

/-- Take everything up to an end mark. -/
def drain (q : Queue α) : Queue α × List α :=
  q.take q.size

end Queue

end GroundLink
