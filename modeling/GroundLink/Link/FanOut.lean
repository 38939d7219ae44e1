import GroundLink.Link.Queue

/-!
# Fan-out

A fan-out copies each item to every registered destination. Destinations are queues, known by their
number; one queue may be registered several times. A destination that refuses an item is no longer
registered. Ids of registrations count up and are never used again.
-/

namespace GroundLink

/-- A registered destination. -/
structure Route where
  id : Nat
  /-- The number of its queue. -/
  queue : Nat
deriving DecidableEq, Repr

/-- Queues, and those of them that get every item. -/
structure FanOut (α : Type) where
  queues : List (Queue α)
  /-- In the order of registration. -/
  routes : List Route
  /-- The id of the next registration. -/
  nextId : Nat
deriving Repr

/-- A registration with a queue of its own. -/
structure Subscription where
  id : Nat
  queue : Nat
deriving DecidableEq, Repr

namespace FanOut

variable {α : Type}

/-- No queues. -/
def empty : FanOut α :=
  ⟨[], [], 0⟩

/-- Add a queue and give its number. -/
def addQueue (f : FanOut α) (q : Queue α) : FanOut α × Nat :=
  ({ f with queues := f.queues ++ [q] }, f.queues.length)

/-- The queue of a number. -/
def queue? (f : FanOut α) (number : Nat) : Option (Queue α) :=
  f.queues[number]?

/-- Apply a function to one queue. -/
def modifyQueue (f : FanOut α) (number : Nat) (change : Queue α → Queue α) : FanOut α :=
  { f with queues := f.queues.modify number change }

/-- Register a queue and give the id. -/
def register (f : FanOut α) (number : Nat) : FanOut α × Nat :=
  ({ f with routes := f.routes ++ [⟨f.nextId, number⟩], nextId := f.nextId + 1 }, f.nextId)

/-- End a registration, and say whether there was one. -/
def unregister (f : FanOut α) (id : Nat) : FanOut α × Bool :=
  ({ f with routes := f.routes.filter (·.id != id) }, f.routes.any (·.id == id))

/-- Write an item to the queue of a route, and collect the ids of routes that refuse it. -/
def offer (item : α) (state : List (Queue α) × List Nat) (route : Route) :
    List (Queue α) × List Nat :=
  match state.1[route.queue]? with
  | none => state
  | some q =>
    let (q, written) := q.write item
    (state.1.set route.queue q,
      if written = .refused then state.2 ++ [route.id] else state.2)

/-- Copy an item to every registered destination. -/
def send (f : FanOut α) (item : α) : FanOut α :=
  let (queues, refused) := f.routes.foldl (offer item) (f.queues, [])
  { f with queues := queues, routes := f.routes.filter fun route => !refused.contains route.id }

/-- Write an item to one queue. -/
def write (f : FanOut α) (number : Nat) (item : α) : FanOut α × Written :=
  match f.queue? number with
  | none => (f, .refused)
  | some q =>
    let (q, written) := q.write item
    (f.modifyQueue number fun _ => q, written)

/-- Read from one queue. -/
def read (f : FanOut α) (number : Nat) : FanOut α × List α :=
  match f.queue? number with
  | none => (f, [])
  | some q =>
    let (q, items) := q.read
    (f.modifyQueue number fun _ => q, items)

/-- Take everything out of one queue. -/
def drain (f : FanOut α) (number : Nat) : FanOut α × List α :=
  match f.queue? number with
  | none => (f, [])
  | some q =>
    let (q, items) := q.drain
    (f.modifyQueue number fun _ => q, items)

/-- Register a new queue. -/
def subscribe (f : FanOut α) (q : Queue α) : FanOut α × Subscription :=
  let (f, number) := f.addQueue q
  let (f, id) := f.register number
  (f, ⟨id, number⟩)

/-- End a registration and close its queue. -/
def unsubscribe (f : FanOut α) (s : Subscription) : FanOut α :=
  (f.unregister s.id).1.modifyQueue s.queue Queue.close

end FanOut

end GroundLink
