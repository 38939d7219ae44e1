import GroundLink.Link.FanOut
import GroundLink.Proofs.Link.Traffic
import Mathlib.Data.List.Induction
import Mathlib.Data.List.Nodup
import Mathlib.Logic.Function.Basic

/-!
# What a fan-out delivers

A `Roster` says who is registered with a fan-out and what is due to whom. It knows nothing of what
the queues hold: a registration is due the items that were sent while it was registered and its
queue was open. Read `Roster.send` first. `Broadcast.perform` makes one call of a fan-out and enters
it in the roster.

A queue may be registered more than once, so a queue is followed by a list of offers, each made for
one registration: `Roster.Owes` compares the offers with the roster, and `Queue.Took` with the
queue. `run_delivers_once` says that both agree, whatever calls were made.
-/

namespace GroundLink

/-! ## What is due -/

/-- A registration and what became of it. -/
structure Registration (α : Type) where
  route : Route
  /-- Whether it has not ended. -/
  registered : Bool
  /-- The items sent while it was registered and its queue was open, oldest first. -/
  due : List α
deriving DecidableEq

/-- All registrations that there were. -/
structure Roster (α : Type) where
  /-- The number of queues. -/
  queues : Nat
  /-- The numbers of the queues that were closed. -/
  closed : List Nat
  /-- In the order of registration. -/
  registrations : List (Registration α)
deriving DecidableEq

/-- End a registration. -/
def Registration.leave {α : Type} (r : Registration α) : Registration α :=
  { r with registered := false }

/-- What sending an item means for a registration. It ends if its queue is closed. -/
def Registration.send {α : Type} (closed : List Nat) (item : α) (r : Registration α) :
    Registration α :=
  if r.registered then
    if r.route.queue ∈ closed then r.leave else { r with due := r.due ++ [item] }
  else r

namespace Roster

variable {α : Type}

/-- The registrations that have not ended. -/
def routes (r : Roster α) : List Route :=
  (r.registrations.filter (·.registered)).map (·.route)

/-- One queue more, with the next number. -/
def addQueue (r : Roster α) : Roster α :=
  { r with queues := r.queues + 1 }

/-- Register a queue. The ids count up. -/
def register (r : Roster α) (number : Nat) : Roster α :=
  { r with registrations := r.registrations ++ [⟨⟨r.registrations.length, number⟩, true, []⟩] }

/-- A registration is withdrawn, if there is one of that id. -/
def unregister (r : Roster α) (id : Nat) : Roster α :=
  { r with registrations := r.registrations.map fun e => if e.route.id = id then e.leave else e }

/-- Whoever is registered at an open queue is due an item; the others are let go. -/
def send (r : Roster α) (item : α) : Roster α :=
  { r with registrations := r.registrations.map (Registration.send r.closed item) }

/-- Note that a queue is closed. -/
def close (r : Roster α) (number : Nat) : Roster α :=
  if number < r.queues then { r with closed := number :: r.closed } else r

end Roster

/-! ## Calls one after another -/

/-- A queue that never makes its writer wait. -/
inductive Destination where
  | unbounded
  | lossy (capacity : Nat)

/-- An empty queue for a destination. -/
def Destination.new {α : Type} : Destination → Queue α
  | unbounded => .new 0 false
  | lossy capacity => .new capacity true

/-- What may be done to a fan-out and its queues. -/
inductive BroadcastCall (α : Type) where
  /-- Make a queue that is not registered yet. -/
  | make (destination : Destination)
  | register (number : Nat)
  | unregister (id : Nat)
  | send (item : α)
  | subscribe (destination : Destination)
  | unsubscribe (s : Subscription)
  | close (number : Nat)
  | read (number : Nat)
  | drain (number : Nat)

/-- A fan-out, its roster, and what came out of each queue. -/
structure Broadcast (α : Type) where
  fanOut : FanOut α
  roster : Roster α
  /-- Oldest first. -/
  returned : Nat → List α

namespace Broadcast

variable {α : Type}

/-- Make a call. A queue that there is not cannot be registered. -/
def perform (b : Broadcast α) : BroadcastCall α → Broadcast α
  | .make destination =>
    { b with
      fanOut := (b.fanOut.addQueue destination.new).1
      roster := b.roster.addQueue }
  | .register number =>
    if number < b.roster.queues then
      { b with
        fanOut := (b.fanOut.register number).1
        roster := b.roster.register number }
    else b
  | .unregister id =>
    { b with
      fanOut := (b.fanOut.unregister id).1
      roster := b.roster.unregister id }
  | .send item =>
    { b with
      fanOut := b.fanOut.send item
      roster := b.roster.send item }
  | .subscribe destination =>
    { b with
      fanOut := (b.fanOut.subscribe destination.new).1
      roster := b.roster.addQueue.register b.roster.queues }
  | .unsubscribe s =>
    { b with
      fanOut := b.fanOut.unsubscribe s
      roster := (b.roster.unregister s.id).close s.queue }
  | .close number =>
    { b with
      fanOut := b.fanOut.modifyQueue number Queue.close
      roster := b.roster.close number }
  | .read number =>
    { b with
      fanOut := (b.fanOut.read number).1
      returned := Function.update b.returned number
        (b.returned number ++ (b.fanOut.read number).2) }
  | .drain number =>
    { b with
      fanOut := (b.fanOut.drain number).1
      returned := Function.update b.returned number
        (b.returned number ++ (b.fanOut.drain number).2) }

/-- What calls of a new fan-out lead to. -/
def run (calls : List (BroadcastCall α)) : Broadcast α :=
  calls.foldl perform ⟨.empty, ⟨0, [], []⟩, fun _ => []⟩

end Broadcast

/-! ## Offers to one queue -/

/-- An item that was offered to a queue for a registration. -/
structure Offer (α : Type) where
  /-- The id of the registration. -/
  id : Nat
  item : α
  /-- Whether the queue took it; it was full if it did not. -/
  kept : Bool

/-- What a queue did with what it was offered. -/
structure Queue.Took {α : Type} (q : Queue α) (returned : List α) (offers : List (Offer α)) :
    Prop where
  kept : (offers.filter (·.kept)).map (·.item) = returned ++ q.items
  lost : offers.countP (!·.kept) = q.dropped
  whole : q.capacity = 0 → ∀ offer ∈ offers, offer.kept = true

/-- The offers to a queue are what is due to its registrations. -/
structure Roster.Owes {α : Type} (r : Roster α) (number : Nat) (offers : List (Offer α)) :
    Prop where
  own : ∀ e ∈ r.registrations, e.route.queue = number →
    (offers.filter (·.id = e.route.id)).map (·.item) = e.due
  known : ∀ offer ∈ offers, ∃ e ∈ r.registrations, e.route = ⟨offer.id, number⟩

namespace Queue

variable {α : Type} {q : Queue α} {returned : List α} {offers : List (Offer α)}

/-- A queue with room for all items, or a lossy one, keeps or loses an item while it is open. -/
theorem write_of_open (hopen : q.closed = false) (hkind : q.capacity = 0 ∨ q.lossy = true) (a : α) :
    (q.write a = ({ q with elements := q.elements ++ [.item a] }, .accepted)) ∨
    (q.capacity ≠ 0 ∧ q.write a = ({ q with dropped := q.dropped + 1 }, .lost)) := by
  have hlimit : q.isFull = true → q.capacity ≠ 0 := by
    intro hfull hcapacity
    simp [isFull, hcapacity] at hfull
  rcases q.write_cases a with ⟨hclosed, -⟩ | ⟨-, hfull, -, hwrite⟩ | ⟨-, hfull, hlossy, -⟩ |
    ⟨-, -, hwrite⟩
  · exact absurd (hopen.symm.trans hclosed) Bool.false_ne_true
  · exact .inr ⟨hlimit hfull, hwrite⟩
  · have hkeeps : q.lossy = true := hkind.resolve_left (hlimit hfull)
    exact absurd (hlossy.symm.trans hkeeps) Bool.false_ne_true
  · exact .inl hwrite

/-- One more item is offered. -/
theorem Took.write (h : q.Took returned offers) (hopen : q.closed = false)
    (hkind : q.capacity = 0 ∨ q.lossy = true) (id : Nat) (a : α) :
    ∃ kept, (q.write a).1.Took returned (offers ++ [⟨id, a, kept⟩]) := by
  obtain ⟨hkept, hlost, hwhole⟩ := h
  rcases write_of_open hopen hkind a with hwrite | ⟨hbounded, hwrite⟩
  · refine ⟨true, ?_, ?_, ?_⟩
    · simp [hwrite, hkept, items, item?]
    · simpa [hwrite] using hlost
    · intro hcapacity offer hoffer
      rw [hwrite] at hcapacity
      rcases List.mem_append.mp hoffer with hold | hnew
      · exact hwhole hcapacity offer hold
      · rw [List.mem_singleton.mp hnew]
  · refine ⟨false, ?_, ?_, ?_⟩
    · simpa [hwrite, items] using hkept
    · simp [hwrite, hlost]
    · intro hcapacity
      rw [hwrite] at hcapacity
      exact absurd hcapacity hbounded

/-- The queue after an item was offered along routes that all lead to it. -/
def writeAlong (item : α) (routes : List Route) (q : Queue α) : Queue α :=
  routes.foldl (fun q _ => (q.write item).1) q

/-- A closed queue takes nothing along any route. -/
theorem writeAlong_of_closed (hclosed : q.closed = true) (item : α) (routes : List Route) :
    q.writeAlong item routes = q := by
  induction routes with
  | nil => rfl
  | cons route rest ih =>
      show (q.write item).1.writeAlong item rest = q
      rw [write_of_closed hclosed, ih]

/-- What one write leaves alone is left alone. -/
theorem writeAlong_keeps {β : Type} {part : Queue α → β} {item : α}
    (h : ∀ q, part (q.write item).1 = part q) (routes : List Route) (q : Queue α) :
    part (q.writeAlong item routes) = part q := by
  induction routes generalizing q with
  | nil => rfl
  | cons route rest ih => exact (ih _).trans (h q)

/-- Writing along routes does not change the capacity. -/
@[simp]
theorem capacity_writeAlong (item : α) (routes : List Route) (q : Queue α) :
    (q.writeAlong item routes).capacity = q.capacity :=
  writeAlong_keeps (fun q => q.capacity_write item) routes q

/-- Writing along routes does not change the mode. -/
@[simp]
theorem lossy_writeAlong (item : α) (routes : List Route) (q : Queue α) :
    (q.writeAlong item routes).lossy = q.lossy :=
  writeAlong_keeps (fun q => q.lossy_write item) routes q

/-- Writing along routes does not close a queue. -/
@[simp]
theorem closed_writeAlong (item : α) (routes : List Route) (q : Queue α) :
    (q.writeAlong item routes).closed = q.closed :=
  writeAlong_keeps (fun q => q.closed_write item) routes q

/-- An open queue is offered the item once for every route. -/
theorem Took.writeAlong (h : q.Took returned offers) (hopen : q.closed = false)
    (hkind : q.capacity = 0 ∨ q.lossy = true) (item : α) (routes : List Route) :
    ∃ more : List (Offer α), more.map (·.id) = routes.map (·.id) ∧
      (∀ offer ∈ more, offer.item = item) ∧
      (q.writeAlong item routes).Took returned (offers ++ more) := by
  induction routes generalizing q offers with
  | nil =>
      refine ⟨[], rfl, nofun, ?_⟩
      rw [List.append_nil]
      exact h
  | cons route rest ih =>
      obtain ⟨kept, htook⟩ := h.write hopen hkind route.id item
      obtain ⟨more, hids, hitems, hrest⟩ := ih htook (by simpa using hopen) (by simpa using hkind)
      refine ⟨⟨route.id, item, kept⟩ :: more, by simp [hids], ?_, ?_⟩
      · intro offer hoffer
        rcases List.mem_cons.mp hoffer with rfl | hmore
        · rfl
        · exact hitems offer hmore
      · rw [List.append_cons]
        exact hrest

/-- What a queue has taken is what it was offered, less what it has counted. -/
theorem Took.sublist (h : q.Took returned offers) :
    (returned ++ q.items).Sublist (offers.map (·.item)) ∧
      (returned ++ q.items).length + q.dropped = (offers.map (·.item)).length := by
  rw [← h.kept, ← h.lost]
  refine ⟨List.filter_sublist.map _, ?_⟩
  rw [List.length_map, List.length_map, ← List.countP_eq_length_filter,
    List.length_eq_countP_add_countP (·.kept) (l := offers)]
  simp

/-- What comes out was held before. -/
theorem Took.taken (h : q.Took returned offers) {left : Queue α} {items : List α}
    (hitems : q.items = items ++ left.items) (hdropped : left.dropped = q.dropped)
    (hcapacity : left.capacity = q.capacity) : left.Took (returned ++ items) offers where
  kept := by
    rw [List.append_assoc, ← hitems]
    exact h.kept
  lost := by
    rw [hdropped]
    exact h.lost
  whole := by
    rw [hcapacity]
    exact h.whole

end Queue

/-! ## What a call does to the queues -/

namespace FanOut

variable {α : Type} {f : FanOut α} {number : Nat} {q : Queue α}

/-- A change of one queue leaves the others alone. -/
theorem queue?_modifyQueue (f : FanOut α) (number other : Nat) (change : Queue α → Queue α) :
    (f.modifyQueue number change).queue? other =
      if number = other then (f.queue? other).map change else f.queue? other := by
  simp only [queue?, modifyQueue, List.getElem?_modify]
  split
  case isTrue => rfl
  case isFalse => exact Option.map_id_apply

/-- A route whose queue is there writes to it, and is dead if that refuses. -/
theorem offer_of_some {item : α} {state : List (Queue α) × List Nat} {route : Route}
    (h : state.1[route.queue]? = some q) :
    offer item state route = (state.1.set route.queue (q.write item).1,
      if (q.write item).2 = .refused then state.2 ++ [route.id] else state.2) := by
  simp only [offer, h]

/-- Every route is tried, and each queue is offered the item along its own routes. -/
theorem getElem?_offered (item : α) (routes : List Route) (state : List (Queue α) × List Nat)
    (number : Nat) :
    (routes.foldl (offer item) state).1[number]? =
      state.1[number]?.map (Queue.writeAlong item (routes.filter (·.queue = number))) := by
  induction routes generalizing state with
  | nil =>
      show state.1[number]? = state.1[number]?.map fun q => q
      simp
  | cons route rest ih =>
      rw [List.foldl_cons, ih]
      by_cases hown : route.queue = number
      · subst hown
        cases hqueue : state.1[route.queue]? with
        | none => simp [offer, hqueue]
        | some q =>
            obtain ⟨hlt, -⟩ := List.getElem?_eq_some_iff.mp hqueue
            simp [offer_of_some hqueue, hlt, Queue.writeAlong]
      · have hother : (offer item state route).1[number]? = state.1[number]? := by
          unfold offer
          split
          · rfl
          · exact List.getElem?_set_ne hown
        rw [hother, List.filter_cons_of_neg (by simpa using hown)]

/-- Offering an item neither adds queues nor takes them away. -/
theorem length_offered (item : α) (routes : List Route) (state : List (Queue α) × List Nat) :
    (routes.foldl (offer item) state).1.length = state.1.length := by
  induction routes generalizing state with
  | nil => rfl
  | cons route rest ih =>
      rw [List.foldl_cons, ih]
      unfold offer
      split
      · rfl
      · exact List.length_set

/-- Whether there is a closed queue of a number. -/
def isClosed (queues : List (Queue α)) (number : Nat) : Bool :=
  queues[number]?.any (·.closed)

/-- No offer closes a queue. -/
theorem isClosed_offer (item : α) (state : List (Queue α) × List Nat) (route : Route)
    (number : Nat) : isClosed (offer item state route).1 number = isClosed state.1 number := by
  cases hqueue : state.1[route.queue]? with
  | none => simp [offer, hqueue]
  | some q =>
      rw [offer_of_some hqueue]
      by_cases hown : route.queue = number
      · subst hown
        obtain ⟨hlt, -⟩ := List.getElem?_eq_some_iff.mp hqueue
        simp only [isClosed, List.getElem?_set_self hlt, hqueue, Option.any_some,
          Queue.closed_write]
      · simp [isClosed, List.getElem?_set_ne hown]

/-- The routes that refuse are those whose queue is closed. -/
theorem refused_offered (item : α) (routes : List Route) (state : List (Queue α) × List Nat) :
    (routes.foldl (offer item) state).2 =
      state.2 ++ (routes.filter (isClosed state.1 ·.queue)).map (·.id) := by
  induction routes generalizing state with
  | nil => simp
  | cons route rest ih =>
      have hrest : rest.filter (isClosed (offer item state route).1 ·.queue) =
          rest.filter (isClosed state.1 ·.queue) := by
        simp only [isClosed_offer]
      have hfirst : (offer item state route).2 =
          state.2 ++ if isClosed state.1 route.queue then [route.id] else [] := by
        cases hqueue : state.1[route.queue]? with
        | none => simp [offer, isClosed, hqueue]
        | some q =>
            have hclosed : isClosed state.1 route.queue = q.closed := by simp [isClosed, hqueue]
            rw [offer_of_some hqueue, hclosed]
            rcases q.write_cases item with ⟨h, hwrite⟩ | ⟨h, -, -, hwrite⟩ | ⟨h, -, -, hwrite⟩ |
              ⟨h, -, hwrite⟩ <;> simp [h, hwrite]
      rw [List.foldl_cons, ih, hrest, hfirst, List.append_assoc, List.filter_cons]
      split <;> rfl

/-- A destination stays registered unless its queue is closed. -/
theorem routes_send (hids : (f.routes.map (·.id)).Nodup) (item : α) :
    (f.send item).routes = f.routes.filter (!isClosed f.queues ·.queue) := by
  show f.routes.filter _ = _
  apply List.filter_congr
  intro route hroute
  rw [refused_offered, List.nil_append, Bool.not_inj_iff, Bool.eq_iff_iff, List.contains_iff_mem,
    List.mem_map]
  constructor
  · rintro ⟨other, hother, hid⟩
    obtain ⟨hmem, hclosed⟩ := List.mem_filter.mp hother
    obtain rfl : other = route := List.inj_on_of_nodup_map hids hmem hroute hid
    exact hclosed
  · intro hclosed
    exact ⟨route, List.mem_filter.mpr ⟨hroute, hclosed⟩, rfl⟩

/-- Sending neither adds queues nor takes them away. -/
theorem length_send (f : FanOut α) (item : α) : (f.send item).queues.length = f.queues.length :=
  length_offered item f.routes (f.queues, [])

/-- Sending writes an item to each queue once for each route to it. -/
theorem queue?_send (f : FanOut α) (item : α) (number : Nat) :
    (f.send item).queue? number =
      (f.queue? number).map (Queue.writeAlong item (f.routes.filter (·.queue = number))) :=
  getElem?_offered item f.routes (f.queues, []) number

end FanOut

/-! ## What a call does to the roster -/

/-- A registration that ends keeps its route. -/
@[simp]
theorem Registration.route_leave {α : Type} (e : Registration α) : e.leave.route = e.route :=
  rfl

/-- A registration that ends is no longer in force. -/
@[simp]
theorem Registration.registered_leave {α : Type} (e : Registration α) :
    e.leave.registered = false :=
  rfl

/-- A registration that ends keeps what it was due. -/
@[simp]
theorem Registration.due_leave {α : Type} (e : Registration α) : e.leave.due = e.due :=
  rfl

/-- An item changes the route of no registration. -/
@[simp]
theorem Registration.route_send {α : Type} (closed : List Nat) (item : α) (e : Registration α) :
    (e.send closed item).route = e.route := by
  unfold send
  split
  case isTrue =>
    split <;> rfl
  case isFalse => rfl

namespace Roster

variable {α : Type} {r : Roster α}

/-- What holds of every roster. -/
structure Proper (r : Roster α) : Prop where
  /-- The ids count up. -/
  ids : r.registrations.map (·.route.id) = List.range r.registrations.length
  known : ∀ e ∈ r.registrations, e.route.queue < r.queues
  closed : ∀ number ∈ r.closed, number < r.queues

/-- Ids are below the number of registrations. -/
theorem Proper.id_lt (h : r.Proper) {e : Registration α} (he : e ∈ r.registrations) :
    e.route.id < r.registrations.length := by
  have hmem : e.route.id ∈ r.registrations.map (·.route.id) :=
    List.mem_map_of_mem he
  rw [h.ids] at hmem
  exact List.mem_range.mp hmem

/-- No two registrations have the same id. -/
theorem Proper.ids_inj (h : r.Proper) {e other : Registration α} (he : e ∈ r.registrations)
    (hother : other ∈ r.registrations) (hid : e.route.id = other.route.id) : e = other := by
  have hnodup : (r.registrations.map (·.route.id)).Nodup := by
    rw [h.ids]
    exact List.nodup_range
  exact List.inj_on_of_nodup_map hnodup he hother hid

/-- No two routes have one id. -/
theorem Proper.routes_nodup (h : r.Proper) : (r.routes.map (·.id)).Nodup := by
  have hsublist : (r.routes.map (·.id)).Sublist (r.registrations.map (·.route.id)) := by
    rw [routes, List.map_map]
    exact List.filter_sublist.map _
  rw [h.ids] at hsublist
  exact List.nodup_range.sublist hsublist

/-- A roster stays proper when a queue is added. -/
theorem Proper.addQueue (h : r.Proper) : r.addQueue.Proper where
  ids := h.ids
  known e he := Nat.lt_succ_of_lt (h.known e he)
  closed number hnumber := Nat.lt_succ_of_lt (h.closed number hnumber)

/-- A roster stays proper when a route to a queue of it is added. -/
theorem Proper.register (h : r.Proper) {number : Nat} (hnumber : number < r.queues) :
    (r.register number).Proper where
  ids := by simp [Roster.register, h.ids, List.range_succ]
  known e he := by
    rcases List.mem_append.mp he with hold | hnew
    · exact h.known e hold
    · rw [List.mem_singleton.mp hnew]
      exact hnumber
  closed := h.closed

/-- Nothing is changed in the routes. -/
theorem Proper.map (h : r.Proper) {change : Registration α → Registration α}
    (hroute : ∀ e, (change e).route = e.route) :
    Proper { r with registrations := r.registrations.map change } where
  ids := by simpa [Function.comp_def, hroute] using h.ids
  known e he := by
    obtain ⟨old, hold, rfl⟩ := List.mem_map.mp he
    rw [hroute]
    exact h.known old hold
  closed := h.closed

/-- A roster stays proper when a registration is withdrawn. -/
theorem Proper.unregister (h : r.Proper) (id : Nat) : (r.unregister id).Proper :=
  h.map fun e => by split <;> rfl

/-- A roster stays proper when an item is sent. -/
theorem Proper.send (h : r.Proper) (item : α) : (r.send item).Proper :=
  h.map fun e => e.route_send r.closed item

/-- A roster stays proper when a queue is closed. -/
theorem Proper.close (h : r.Proper) (number : Nat) : (r.close number).Proper := by
  unfold Roster.close
  split
  case isTrue hlt =>
    refine ⟨h.ids, h.known, fun other hother => ?_⟩
    rcases List.mem_cons.mp hother with rfl | hold
    · exact hlt
    · exact h.closed other hold
  case isFalse => exact h

/-- The new route stands behind the others. -/
theorem routes_register (r : Roster α) (number : Nat) :
    (r.register number).routes = r.routes ++ [⟨r.registrations.length, number⟩] := by
  simp [routes, register]

/-- The routes that stay are those of other ids. -/
theorem routes_unregister (r : Roster α) (id : Nat) :
    (r.unregister id).routes = r.routes.filter (·.id != id) := by
  simp only [routes, unregister]
  induction r.registrations with
  | nil => rfl
  | cons e rest ih =>
      by_cases hid : e.route.id = id <;> cases hregistered : e.registered <;>
        simp [hid, hregistered, ih]

/-- The routes that stay are those to open queues. -/
theorem routes_send (r : Roster α) (item : α) :
    (r.send item).routes = r.routes.filter (·.queue ∉ r.closed) := by
  simp only [routes, send]
  induction r.registrations with
  | nil => rfl
  | cons e rest ih =>
      by_cases hclosed : e.route.queue ∈ r.closed <;> cases hregistered : e.registered <;>
        simp [hclosed, hregistered, Registration.send, ih]

/-- Closing a queue that is there closes no other. -/
theorem mem_close {number other : Nat} :
    other ∈ (r.close number).closed ↔ other ∈ r.closed ∨ number < r.queues ∧ other = number := by
  unfold close
  split
  case isTrue hlt => simp [hlt, or_comm]
  case isFalse hge => simp [hge]

/-- Closing a queue withdraws no registration. -/
@[simp]
theorem registrations_close (r : Roster α) (number : Nat) :
    (r.close number).registrations = r.registrations := by
  unfold close
  split <;> rfl

/-- Closing a queue does not take it away. -/
@[simp]
theorem queues_close (r : Roster α) (number : Nat) : (r.close number).queues = r.queues := by
  unfold close
  split <;> rfl

variable {number : Nat} {offers : List (Offer α)}

/-- What is due only depends on the registrations, not on who is still registered. -/
theorem Owes.unregister (h : r.Owes number offers) (id : Nat) :
    (r.unregister id).Owes number offers := by
  have hroute : ∀ e : Registration α, (if e.route.id = id then e.leave else e).route = e.route :=
    fun e => by split <;> rfl
  have hdue : ∀ e : Registration α, (if e.route.id = id then e.leave else e).due = e.due :=
    fun e => by split <;> rfl
  constructor
  · intro e he hqueue
    obtain ⟨old, hold, rfl⟩ := List.mem_map.mp he
    rw [hroute] at hqueue ⊢
    rw [hdue]
    exact h.own old hold hqueue
  · intro offer hoffer
    obtain ⟨e, he, heroute⟩ := h.known offer hoffer
    exact ⟨_, List.mem_map_of_mem he, (hroute e).trans heroute⟩

/-- If a queue has one registration only, every offer is due to it. -/
theorem Owes.alone (h : r.Owes number offers) {e : Registration α} (he : e ∈ r.registrations)
    (hqueue : e.route.queue = number)
    (halone : ∀ other ∈ r.registrations, other.route.queue = number → other = e) :
    offers.map (·.item) = e.due := by
  have hall : offers.filter (·.id = e.route.id) = offers := by
    apply List.filter_eq_self.mpr
    intro offer hoffer
    obtain ⟨other, hother, hroute⟩ := h.known offer hoffer
    rw [← halone other hother (by rw [hroute]), hroute]
    exact decide_eq_true rfl
  rw [← h.own e he hqueue, hall]

/-- Nothing is due to who has just come. -/
theorem Owes.register (h : r.Owes number offers) (hproper : r.Proper) (other : Nat) :
    (r.register other).Owes number offers := by
  constructor
  · intro e he hqueue
    rcases List.mem_append.mp he with hold | hnew
    · exact h.own e hold hqueue
    · rw [List.mem_singleton.mp hnew]
      have hnone : offers.filter (·.id = r.registrations.length) = [] := by
        apply List.filter_eq_nil_iff.mpr
        intro offer hoffer
        obtain ⟨old, hold, hroute⟩ := h.known offer hoffer
        have hlt := hproper.id_lt hold
        rw [hroute] at hlt
        simpa using Nat.ne_of_lt hlt
      exact congrArg (List.map _) hnone
  · intro offer hoffer
    obtain ⟨e, he, hroute⟩ := h.known offer hoffer
    exact ⟨e, List.mem_append_left _ he, hroute⟩

/-- Where each offer is of the same item, it was offered as often as the id occurs. -/
theorem offers_of_id {item : α} {more : List (Offer α)} (hitems : ∀ offer ∈ more, offer.item = item)
    (id : Nat) : (more.filter (·.id = id)).map (·.item) =
      List.replicate ((more.map (·.id)).count id) item := by
  induction more with
  | nil => rfl
  | cons offer rest ih =>
      obtain ⟨hfirst, hrest⟩ := List.forall_mem_cons.mp hitems
      by_cases hid : offer.id = id
      · simp [hid, hfirst, ih hrest, List.replicate_succ]
      · simp [hid, ih hrest]

/-- A registration is on the list of routes to its queue once, as long as it lasts. -/
theorem Proper.count_routes (h : r.Proper) {e : Registration α} (he : e ∈ r.registrations)
    (hqueue : e.route.queue = number) :
    ((r.routes.filter (·.queue = number)).map (·.id)).count e.route.id =
      if e.registered then 1 else 0 := by
  have hnodup : ((r.routes.filter (·.queue = number)).map (·.id)).Nodup :=
    h.routes_nodup.sublist (List.filter_sublist.map _)
  have hmem : e.route.id ∈ (r.routes.filter (·.queue = number)).map (·.id) ↔
      e.registered = true := by
    constructor
    · intro hid
      obtain ⟨route, hroute, hsame⟩ := List.mem_map.mp hid
      obtain ⟨other, hother, rfl⟩ := List.mem_map.mp (List.mem_filter.mp hroute).1
      obtain ⟨hin, hregistered⟩ := List.mem_filter.mp hother
      rw [← h.ids_inj hin he hsame]
      exact hregistered
    · intro hregistered
      refine List.mem_map.mpr ⟨e.route, List.mem_filter.mpr ⟨?_, by simpa using hqueue⟩, rfl⟩
      exact List.mem_map.mpr ⟨e, List.mem_filter.mpr ⟨he, hregistered⟩, rfl⟩
  rw [hnodup.count]
  simp only [hmem]

/-- An item that was sent is due to everybody who is registered with an open queue, and was offered
to each of them once. -/
theorem Owes.send (h : r.Owes number offers) (hproper : r.Proper) (hopen : number ∉ r.closed)
    {item : α} {more : List (Offer α)}
    (hids : more.map (·.id) = (r.routes.filter (·.queue = number)).map (·.id))
    (hitems : ∀ offer ∈ more, offer.item = item) :
    (r.send item).Owes number (offers ++ more) := by
  constructor
  · intro e he hqueue
    obtain ⟨old, hold, rfl⟩ := List.mem_map.mp he
    rw [Registration.route_send] at hqueue ⊢
    rw [List.filter_append, List.map_append, h.own old hold hqueue, offers_of_id hitems, hids,
      hproper.count_routes hold hqueue]
    cases hregistered : old.registered <;>
      simp [Registration.send, hregistered, hqueue, hopen]
  · intro offer hoffer
    rcases List.mem_append.mp hoffer with hearlier | hnew
    · obtain ⟨e, he, hroute⟩ := h.known offer hearlier
      exact ⟨_, List.mem_map_of_mem he, (e.route_send r.closed item).trans hroute⟩
    · have hid : offer.id ∈ (r.routes.filter (·.queue = number)).map (·.id) := by
        rw [← hids]
        exact List.mem_map_of_mem hnew
      obtain ⟨route, hroute, hsame⟩ := List.mem_map.mp hid
      obtain ⟨hin, hqueue⟩ := List.mem_filter.mp hroute
      obtain ⟨e, he, rfl⟩ := List.mem_map.mp hin
      refine ⟨_, List.mem_map_of_mem (List.mem_filter.mp he).1, ?_⟩
      rw [Registration.route_send, ← hsame, ← of_decide_eq_true hqueue]

/-- An item that was sent is not due where the queue is closed. -/
theorem Owes.send_of_closed (h : r.Owes number offers) (hclosed : number ∈ r.closed) (item : α) :
    (r.send item).Owes number offers := by
  constructor
  · intro e he hqueue
    obtain ⟨old, hold, rfl⟩ := List.mem_map.mp he
    rw [Registration.route_send] at hqueue ⊢
    have hdue : (old.send r.closed item).due = old.due := by
      cases hregistered : old.registered <;>
        simp [Registration.send, hregistered, hqueue, hclosed]
    rw [hdue]
    exact h.own old hold hqueue
  · intro offer hoffer
    obtain ⟨e, he, hroute⟩ := h.known offer hoffer
    exact ⟨_, List.mem_map_of_mem he, (e.route_send r.closed item).trans hroute⟩

end Roster

/-! ## The fan-out and its roster -/

namespace Broadcast

variable {α : Type}

/-- A queue was offered what is due, and took what it had room for. -/
structure Served (r : Roster α) (number : Nat) (q : Queue α) (returned : List α) : Prop where
  kind : q.capacity = 0 ∨ q.lossy = true
  closed : q.closed = true ↔ number ∈ r.closed
  delivered : ∃ offers, r.Owes number offers ∧ q.Took returned offers

/-- The fan-out does what its roster says. -/
structure Sound (b : Broadcast α) : Prop where
  proper : b.roster.Proper
  queues : b.fanOut.queues.length = b.roster.queues
  nextId : b.fanOut.nextId = b.roster.registrations.length
  routes : b.fanOut.routes = b.roster.routes
  served : ∀ number q, b.fanOut.queue? number = some q →
    Served b.roster number q (b.returned number)
  nothing : ∀ number, b.roster.queues ≤ number → b.returned number = []

variable {b : Broadcast α} {r : Roster α} {number : Nat} {q : Queue α} {returned : List α}

/-! ### One queue -/

/-- A new queue was offered nothing, and nothing is due to it. -/
theorem new_served (h : r.Proper) (destination : Destination) :
    Served r.addQueue r.queues destination.new [] := by
  refine ⟨?_, ?_, [], ⟨?_, nofun⟩, ?_⟩
  · cases destination with
    | unbounded => exact .inl rfl
    | lossy => exact .inr rfl
  · constructor
    · intro hclosed
      cases destination <;> cases hclosed
    · intro hmem
      exact absurd (h.closed _ hmem) (Nat.lt_irrefl _)
  · intro e he hqueue
    exact absurd hqueue (Nat.ne_of_lt (h.known e he))
  · cases destination <;> exact ⟨rfl, rfl, fun _ => nofun⟩

/-- A queue is served alike by rosters with the same registrations that agree on whether it is
closed. -/
theorem Served.congr (h : Served r number q returned) {other : Roster α}
    (hentries : other.registrations = r.registrations)
    (hclosed : number ∈ other.closed ↔ number ∈ r.closed) : Served other number q returned := by
  obtain ⟨hkind, hover, offers, howes, htook⟩ := h
  refine ⟨hkind, hover.trans hclosed.symm, offers, ⟨?_, ?_⟩, htook⟩
  · rw [hentries]
    exact howes.own
  · rw [hentries]
    exact howes.known

/-- A queue has been served rightly when another route is added. -/
theorem Served.register (h : Served r number q returned) (hproper : r.Proper) (other : Nat) :
    Served (r.register other) number q returned := by
  obtain ⟨hkind, hclosed, offers, howes, htook⟩ := h
  exact ⟨hkind, hclosed, offers, howes.register hproper other, htook⟩

/-- A queue has been served rightly when a route is withdrawn. -/
theorem Served.unregister (h : Served r number q returned) (id : Nat) :
    Served (r.unregister id) number q returned := by
  obtain ⟨hkind, hclosed, offers, howes, htook⟩ := h
  exact ⟨hkind, hclosed, offers, howes.unregister id, htook⟩

/-- A queue is offered an item along the routes that lead to it. -/
theorem Served.send (h : Served r number q returned) (hproper : r.Proper) (item : α) :
    Served (r.send item) number (q.writeAlong item (r.routes.filter (·.queue = number)))
      returned := by
  obtain ⟨hkind, hclosed, offers, howes, htook⟩ := h
  refine ⟨by simpa using hkind, ?_, ?_⟩
  · rw [Queue.closed_writeAlong]
    exact hclosed
  · by_cases hmem : number ∈ r.closed
    · refine ⟨offers, howes.send_of_closed hmem item, ?_⟩
      rw [Queue.writeAlong_of_closed (hclosed.mpr hmem)]
      exact htook
    · have hopen : q.closed = false := by
        rw [← Bool.not_eq_true, hclosed]
        exact hmem
      obtain ⟨more, hids, hitems, hmore⟩ := htook.writeAlong hopen hkind item
        (r.routes.filter (·.queue = number))
      exact ⟨offers ++ more, howes.send hproper hmem hids hitems, hmore⟩

/-- Items are taken out of a queue. -/
theorem Served.taken (h : Served r number q returned) {left : Queue α} {items : List α}
    (hitems : q.items = items ++ left.items) (hdropped : left.dropped = q.dropped)
    (hcapacity : left.capacity = q.capacity) (hlossy : left.lossy = q.lossy)
    (hsame : left.closed = q.closed) : Served r number left (returned ++ items) := by
  obtain ⟨hkind, hclosed, offers, howes, htook⟩ := h
  refine ⟨?_, ?_, offers, howes, htook.taken hitems hdropped hcapacity⟩
  · rw [hcapacity, hlossy]
    exact hkind
  · rw [hsame]
    exact hclosed

/-- A queue that is closed still holds its items. -/
theorem Served.close (h : Served r number q returned) (hlt : number < r.queues) :
    Served (r.close number) number q.close returned := by
  obtain ⟨hkind, -, offers, howes, htook⟩ := h
  refine ⟨by simpa using hkind, ?_, offers, ⟨?_, ?_⟩, ?_⟩
  · simp [Roster.mem_close, hlt]
  · simpa using howes.own
  · simpa using howes.known
  · have hclose : q.close.Took (returned ++ []) offers :=
      htook.taken q.items_close.symm q.dropped_close q.capacity_close
    rwa [List.append_nil] at hclose

/-! ### All queues -/

/-- A queue that is there is on the roster. -/
theorem Sound.lt_queues (h : b.Sound) (hqueue : b.fanOut.queue? number = some q) :
    number < b.roster.queues := by
  rw [← h.queues]
  exact (List.getElem?_eq_some_iff.mp hqueue).1

/-- A queue that is not there is not on the roster. -/
theorem Sound.queues_le (h : b.Sound) (hqueue : b.fanOut.queue? number = none) :
    b.roster.queues ≤ number := by
  rw [← h.queues]
  exact List.getElem?_eq_none_iff.mp hqueue

/-- The account holds when a queue is added. -/
theorem Sound.addQueue (h : b.Sound) (destination : Destination) :
    Sound { b with
      fanOut := (b.fanOut.addQueue destination.new).1
      roster := b.roster.addQueue } := by
  refine ⟨h.proper.addQueue, ?_, h.nextId, h.routes, ?_, ?_⟩
  · show (b.fanOut.queues ++ [_]).length = b.roster.queues + 1
    rw [List.length_append, h.queues, List.length_singleton]
  · intro number q hqueue
    change (b.fanOut.queues ++ [destination.new])[number]? = some q at hqueue
    rcases Nat.lt_trichotomy number b.fanOut.queues.length with hlt | rfl | hgt
    · rw [List.getElem?_append_left hlt] at hqueue
      exact (h.served number q hqueue).congr rfl .rfl
    · rw [List.getElem?_concat_length] at hqueue
      obtain rfl := Option.some.inj hqueue
      show Served _ b.fanOut.queues.length _ (b.returned b.fanOut.queues.length)
      rw [h.queues, h.nothing _ (Nat.le_refl _)]
      exact new_served h.proper destination
    · rw [List.getElem?_eq_none (by rw [List.length_append]; exact hgt)] at hqueue
      cases hqueue
  · intro number hnumber
    exact h.nothing number (Nat.le_of_succ_le hnumber)

/-- The account holds when a route is added. -/
theorem Sound.register (h : b.Sound) (hnumber : number < b.roster.queues) :
    Sound { b with
      fanOut := (b.fanOut.register number).1
      roster := b.roster.register number } := by
  refine ⟨h.proper.register hnumber, h.queues, ?_, ?_, ?_, h.nothing⟩
  · simpa [FanOut.register, Roster.register] using h.nextId
  · rw [Roster.routes_register, ← h.routes, ← h.nextId]
    rfl
  · intro other q hqueue
    exact (h.served other q hqueue).register h.proper number

/-- The account holds when a route is withdrawn. -/
theorem Sound.unregister (h : b.Sound) (id : Nat) :
    Sound { b with
      fanOut := (b.fanOut.unregister id).1
      roster := b.roster.unregister id } := by
  refine ⟨h.proper.unregister id, h.queues, ?_, ?_, ?_, h.nothing⟩
  · simpa [FanOut.unregister, Roster.unregister] using h.nextId
  · rw [Roster.routes_unregister, ← h.routes]
    rfl
  · intro number q hqueue
    exact (h.served number q hqueue).unregister id

/-- The closed queues are those that the roster has as closed. -/
theorem Sound.isClosed_iff (h : b.Sound) (number : Nat) :
    FanOut.isClosed b.fanOut.queues number = true ↔ number ∈ b.roster.closed := by
  cases hqueue : b.fanOut.queue? number with
  | some q =>
      have hsome : b.fanOut.queues[number]? = some q := hqueue
      rw [← (h.served number q hqueue).closed, FanOut.isClosed, hsome, Option.any_some]
  | none =>
      have hnone : b.fanOut.queues[number]? = none := hqueue
      constructor
      · intro hclosed
        simp [FanOut.isClosed, hnone] at hclosed
      · intro hmem
        exact absurd (h.proper.closed number hmem) (Nat.not_lt.mpr (h.queues_le hqueue))

/-- A registration ends with an item that was sent if its queue is closed, and not otherwise. -/
theorem Sound.routes_send (h : b.Sound) (item : α) :
    (b.fanOut.send item).routes = b.fanOut.routes.filter (·.queue ∉ b.roster.closed) := by
  have hids : (b.fanOut.routes.map (·.id)).Nodup := by
    rw [h.routes]
    exact h.proper.routes_nodup
  rw [FanOut.routes_send hids]
  apply List.filter_congr
  intro route _
  rw [Bool.eq_iff_iff, Bool.not_eq_true', ← Bool.not_eq_true, h.isClosed_iff, decide_eq_true_iff]

/-- The account holds when an item is sent. -/
theorem Sound.send (h : b.Sound) (item : α) :
    Sound { b with
      fanOut := b.fanOut.send item
      roster := b.roster.send item } := by
  refine ⟨h.proper.send item, ?_, ?_, ?_, ?_, h.nothing⟩
  · exact (b.fanOut.length_send item).trans h.queues
  · simpa [FanOut.send, Roster.send] using h.nextId
  · show (b.fanOut.send item).routes = _
    rw [h.routes_send, Roster.routes_send, h.routes]
  · intro number written hwritten
    change (b.fanOut.send item).queue? number = some written at hwritten
    rw [FanOut.queue?_send, h.routes] at hwritten
    obtain ⟨q, hqueue, rfl⟩ := Option.map_eq_some_iff.mp hwritten
    exact (h.served number q hqueue).send h.proper item

/-- One queue changes, with what came out of it and with what the roster notes of it. -/
theorem Sound.change (h : b.Sound) (hqueue : b.fanOut.queue? number = some q)
    (change : Queue α → Queue α) {r : Roster α} (hproper : r.Proper)
    (hqueues : r.queues = b.roster.queues) (hentries : r.registrations = b.roster.registrations)
    (hclosed : ∀ other, other ≠ number → (other ∈ r.closed ↔ other ∈ b.roster.closed))
    {returned : List α} (hserved : Served r number (change q) returned) :
    Sound ⟨b.fanOut.modifyQueue number change, r, Function.update b.returned number returned⟩ := by
  refine ⟨hproper, ?_, ?_, ?_, ?_, ?_⟩
  · show (b.fanOut.queues.modify number change).length = r.queues
    rw [List.length_modify, h.queues, hqueues]
  · rw [hentries]
    exact h.nextId
  · show b.fanOut.routes = r.routes
    rw [h.routes, Roster.routes, Roster.routes, hentries]
  · intro other changed hchanged
    change (b.fanOut.modifyQueue number change).queue? other = some changed at hchanged
    rw [FanOut.queue?_modifyQueue] at hchanged
    by_cases hown : number = other
    · subst hown
      rw [if_pos rfl, hqueue, Option.map_some] at hchanged
      obtain rfl := Option.some.inj hchanged
      simpa using hserved
    · rw [if_neg hown] at hchanged
      have hother : other ≠ number := Ne.symm hown
      simp only [Function.update_of_ne hother]
      exact (h.served other changed hchanged).congr hentries (hclosed other hother)
  · intro other hother
    rw [hqueues] at hother
    have hlt := h.lt_queues hqueue
    have hne : other ≠ number := by omega
    simp only [Function.update_of_ne hne]
    exact h.nothing other hother

/-- The account holds when a queue is closed. -/
theorem Sound.close (h : b.Sound) (number : Nat) :
    Sound { b with
      fanOut := b.fanOut.modifyQueue number Queue.close
      roster := b.roster.close number } := by
  cases hqueue : b.fanOut.queue? number with
  | some q =>
      have hserved := (h.served number q hqueue).close (h.lt_queues hqueue)
      have hsound := h.change hqueue Queue.close (h.proper.close number) (by simp) (by simp)
        (fun other hother => by simp [Roster.mem_close, hother]) hserved
      rwa [Function.update_eq_self] at hsound
  | none =>
      -- there is nothing to close
      have hsame : b.fanOut.modifyQueue number Queue.close = b.fanOut := by
        simp only [FanOut.modifyQueue, List.modify_eq_self (List.getElem?_eq_none_iff.mp hqueue)]
      have hroster : b.roster.close number = b.roster :=
        if_neg (Nat.not_lt.mpr (h.queues_le hqueue))
      rw [hsame, hroster]
      exact h

/-- The account holds when a batch is read. -/
theorem Sound.read (h : b.Sound) (number : Nat) :
    Sound { b with
      fanOut := (b.fanOut.read number).1
      returned := Function.update b.returned number
        (b.returned number ++ (b.fanOut.read number).2) } := by
  cases hqueue : b.fanOut.queue? number with
  | some q =>
      simp only [FanOut.read, hqueue]
      have hserved := (h.served number q hqueue).taken q.items_read q.dropped_read q.capacity_read
        q.lossy_read q.closed_read
      exact h.change hqueue _ h.proper rfl rfl (fun _ _ => .rfl) hserved
  | none =>
      simp only [FanOut.read, hqueue, List.append_nil, Function.update_eq_self]
      exact h

/-- The account holds when a queue is emptied. -/
theorem Sound.drain (h : b.Sound) (number : Nat) :
    Sound { b with
      fanOut := (b.fanOut.drain number).1
      returned := Function.update b.returned number
        (b.returned number ++ (b.fanOut.drain number).2) } := by
  cases hqueue : b.fanOut.queue? number with
  | some q =>
      simp only [FanOut.drain, hqueue]
      have hserved := (h.served number q hqueue).taken q.items_drain rfl rfl rfl rfl
      exact h.change hqueue _ h.proper rfl rfl (fun _ _ => .rfl) hserved
  | none =>
      simp only [FanOut.drain, hqueue, List.append_nil, Function.update_eq_self]
      exact h

/-- So it holds after every call. -/
theorem Sound.perform (h : b.Sound) (call : BroadcastCall α) : (b.perform call).Sound := by
  cases call with
  | make destination => exact h.addQueue destination
  | register number =>
      rw [Broadcast.perform]
      split
      case isTrue hlt => exact h.register hlt
      case isFalse => exact h
  | unregister id => exact h.unregister id
  | send item => exact h.send item
  | subscribe destination =>
      have hsound := (h.addQueue destination).register (Nat.lt_succ_self b.roster.queues)
      rw [← h.queues] at hsound
      show Sound { b with
        fanOut := ((b.fanOut.addQueue destination.new).1.register b.fanOut.queues.length).1
        roster := b.roster.addQueue.register b.roster.queues }
      rwa [← h.queues]
  | unsubscribe s => exact (h.unregister s.id).close s.queue
  | close number => exact h.close number
  | read number => exact h.read number
  | drain number => exact h.drain number

/-- And after every list of calls. -/
theorem run_sound (calls : List (BroadcastCall α)) : (run calls).Sound := by
  induction calls using List.reverseRecOn with
  | nil => exact ⟨⟨rfl, nofun, nofun⟩, rfl, rfl, rfl, nofun, fun _ _ => rfl⟩
  | append_singleton calls call ih =>
      rw [run, List.foldl_append]
      exact ih.perform call

/-- A fan-out delivers every item once to everybody who is registered, whatever calls are made. No
id is given twice; an id that is ended was registered; sending ends exactly the registrations whose
queue is closed. Each queue was offered what is due to each of its registrations, in order: what
came out of it and what it holds is what it took, a queue without a limit took everything, and a
lossy one has counted what it did not take. So a queue with one registration has given, or holds,
what is due to it, less what was counted. -/
theorem run_delivers_once (calls : List (BroadcastCall α)) :
    let b := run calls
    b.roster.registrations.map (·.route.id) = List.range b.fanOut.nextId ∧
    b.fanOut.routes = b.roster.routes ∧
    (∀ id, (b.fanOut.unregister id).2 = true ↔
      ∃ e ∈ b.roster.registrations, e.route.id = id ∧ e.registered = true) ∧
    (∀ item, (b.fanOut.send item).routes =
      b.fanOut.routes.filter (·.queue ∉ b.roster.closed)) ∧
    (∀ e ∈ b.roster.registrations, ∃ q, b.fanOut.queue? e.route.queue = some q) ∧
    ∀ number q, b.fanOut.queue? number = some q →
      (q.closed = true ↔ number ∈ b.roster.closed) ∧
      (∃ offers, b.roster.Owes number offers ∧ q.Took (b.returned number) offers) ∧
      ∀ e ∈ b.roster.registrations, e.route.queue = number →
        (∀ other ∈ b.roster.registrations, other.route.queue = number → other = e) →
        (b.returned number ++ q.items).Sublist e.due ∧
          (b.returned number ++ q.items).length + q.dropped = e.due.length := by
  intro b
  have hsound : b.Sound := run_sound calls
  refine ⟨?_, hsound.routes, ?_, hsound.routes_send, ?_, ?_⟩
  · rw [hsound.nextId]
    exact hsound.proper.ids
  · intro id
    show b.fanOut.routes.any (·.id == id) = true ↔ _
    rw [hsound.routes, List.any_eq_true]
    constructor
    · rintro ⟨route, hroute, hid⟩
      obtain ⟨e, he, rfl⟩ := List.mem_map.mp hroute
      obtain ⟨hmem, hregistered⟩ := List.mem_filter.mp he
      exact ⟨e, hmem, beq_iff_eq.mp hid, hregistered⟩
    · rintro ⟨e, hmem, hid, hregistered⟩
      exact ⟨e.route, List.mem_map_of_mem (List.mem_filter.mpr ⟨hmem, hregistered⟩),
        beq_iff_eq.mpr hid⟩
  · intro e he
    have hlt := hsound.proper.known e he
    rw [← hsound.queues] at hlt
    exact ⟨_, List.getElem?_eq_getElem hlt⟩
  · intro number q hqueue
    obtain ⟨-, hclosed, offers, howes, htook⟩ := hsound.served number q hqueue
    refine ⟨hclosed, ⟨offers, howes, htook⟩, fun e he hown halone => ?_⟩
    rw [← howes.alone he hown halone]
    exact htook.sublist

/-- A lossy queue with room for one item is registered next to one without a limit that is closed
after the first item. -/
example :
    let b := run [.subscribe .unbounded, .subscribe (.lossy 1), .send 'a', .close 0, .send 'b',
      .unregister 0, .read 1, .send 'c', .read 0]
    b.fanOut.routes = [⟨1, 1⟩] ∧ b.returned 0 = ['a'] ∧ b.returned 1 = ['a'] ∧
      b.roster.registrations =
        [⟨⟨0, 0⟩, false, ['a']⟩, ⟨⟨1, 1⟩, true, ['a', 'b', 'c']⟩] ∧
      (b.fanOut.queue? 1).map (fun q => (q.items, q.dropped)) = some (['c'], 1) := by
  decide

end Broadcast

end GroundLink
