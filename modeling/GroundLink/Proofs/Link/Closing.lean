import GroundLink.Proofs.Link.Queue
import Mathlib.Logic.Function.Iterate

/-!
# Closing a queue while it is used

Writers, a reader and whoever closes a queue may run at the same time. A write looks whether the
queue is closed and then puts its item in, a close refuses writers and then puts the end mark in,
and a read is a chain of steps (`Reading.step`) that come to `Queue.read` if nothing else runs
between them (`read_runs`). `Reaches` lists what all of them can do, one step at a time and in any
order; read it first.

A writer that was let in may be slow, and its item then stands behind the end, where no reader
looks. `Fate` tells such items from those that a full lossy queue dropped and from those that are
kept. `Sound` is what every step preserves, and `kept_items_are_returned` draws the conclusion: a
reader that finds the end has returned every item that was kept.
-/

namespace GroundLink

/-- What became of an item whose write has returned. -/
inductive Fate where
  | kept
  /-- The queue was full and lossy. -/
  | dropped
  /-- The item was put in behind the end. -/
  | behind
deriving DecidableEq

/-- How far a reader has come with a read. -/
inductive Reading (α : Type) where
  /-- No read is going on. -/
  | idle
  /-- The reader is to look whether the queue is closed, before or after it has waited. -/
  | looks (waited : Bool)
  /-- The queue was closed. The reader is to look whether it is empty. -/
  | checks (waited : Bool)
  | waits
  /-- The reader takes what is there. -/
  | collects (items : List α)
  /-- The reader has found the end and is to say so. -/
  | ends (items : List α)

namespace Reading

variable {α : Type}

/-- What is taken from the queue and not returned yet. -/
def held : Reading α → List α
  | collects items | ends items => items
  | idle | looks _ | checks _ | waits => []

/-- Whether the end was found. -/
def foundEnd : Reading α → Bool
  | ends _ => true
  | idle | looks _ | checks _ | waits | collects _ => false

/-- The items in front of the end mark. -/
def front : List (Queued α) → List α
  | .item a :: rest => a :: front rest
  | [] | .stop :: _ => []

/-- The items that the reader will still come to. -/
def ahead (q : Queue α) (r : Reading α) : List α :=
  if q.ended || r.foundEnd then [] else front q.elements

/-- Whether an item that is put in now stands behind the end. -/
def isOver (q : Queue α) (r : Reading α) : Bool :=
  q.ended || r.foundEnd || q.elements.any fun element => element matches .stop

/-- A reader that has not found the end waits for an item, once. -/
def goOn (waited : Bool) : Reading α :=
  if waited then idle else waits

/-- What a reader does next, and what its read returns if it is over. A wait is over when an item
comes, or else when the time is up. -/
def step (q : Queue α) : Reading α → Queue α × Reading α × List α
  | idle => (q, if q.ended then idle else looks false, [])
  | looks waited => (q, if q.closed then checks waited else goOn waited, [])
  | checks waited => (q, if q.elements.isEmpty then ends [] else goOn waited, [])
  | waits =>
    match q.elements with
    | [] => (q, looks true, [])
    | .item a :: rest => ({ q with elements := rest }, collects [a], [])
    | .stop :: rest => ({ q with elements := rest }, ends [], [])
  | collects items =>
    if items.length < Queue.batchSize then
      match q.elements with
      | [] => (q, idle, items)
      | .item a :: rest => ({ q with elements := rest }, collects (items ++ [a]), [])
      | .stop :: rest => ({ q with elements := rest }, ends items, [])
    else (q, idle, items)
  | ends items => ({ q with ended := true }, idle, items)

end Reading

/-- A queue that is written, read and closed at the same time. -/
structure Closing (α : Type) where
  queue : Queue α
  /-- What writers hold that found the queue open. -/
  admitted : List α
  /-- Whether the end mark is still to be put in. -/
  marking : Bool
  reading : Reading α
  /-- The items whose writes have returned, in the order in which they were put in. -/
  told : List (α × Fate)
  /-- What reads have returned. -/
  returned : List α

namespace Closing

variable {α : Type}

/-- Nothing has happened to a queue. -/
def start (capacity : Nat) (lossy : Bool) : Closing α :=
  ⟨.new capacity lossy, [], false, .idle, [], []⟩

/-- What becomes of an item that is put in now. -/
def fate (s : Closing α) (written : Written) : Fate :=
  if written = .lost then .dropped else if s.reading.isOver s.queue then .behind else .kept

/-- A writer puts its item in. -/
def put (s : Closing α) (writer : Nat) (a : α) : Closing α :=
  { s with
    queue := (s.queue.enqueue a).1
    admitted := s.admitted.eraseIdx writer
    told := s.told ++ [(a, s.fate (s.queue.enqueue a).2)] }

/-- The reader takes its next step. -/
def read (s : Closing α) : Closing α :=
  let (queue, reading, items) := s.reading.step s.queue
  { s with queue, reading, returned := s.returned ++ items }

/-- What writers, a reader and a close can lead to. -/
inductive Reaches (capacity : Nat) (lossy : Bool) : Closing α → Prop
  | start : Reaches capacity lossy (start capacity lossy)
  /-- A writer finds the queue open. -/
  | looks {s : Closing α} (h : Reaches capacity lossy s) (hopen : s.queue.closed = false) (a : α) :
      Reaches capacity lossy { s with admitted := s.admitted ++ [a] }
  /-- A writer puts its item in. It waits as long as the queue is full, unless the queue is
  lossy. -/
  | puts {s : Closing α} (h : Reaches capacity lossy s) (writer : Nat) {a : α}
      (hwriter : s.admitted[writer]? = some a) (hroom : (s.queue.enqueue a).2 ≠ .waits) :
      Reaches capacity lossy (s.put writer a)
  /-- The queue is closed, in two halves. -/
  | refuses {s : Closing α} (h : Reaches capacity lossy s) (hopen : s.queue.closed = false) :
      Reaches capacity lossy { s with queue := s.queue.refuse, marking := true }
  | marks {s : Closing α} (h : Reaches capacity lossy s) (hmarking : s.marking = true) :
      Reaches capacity lossy { s with queue := s.queue.putStop, marking := false }
  | reads {s : Closing α} (h : Reaches capacity lossy s) : Reaches capacity lossy s.read

/-- The items that were put in in front of the end. -/
def kept (s : Closing α) : List α :=
  (s.told.filter (·.2 = .kept)).map Prod.fst

/-- The items that were put in. -/
def accepted (s : Closing α) : List α :=
  (s.told.filter (·.2 ≠ .dropped)).map Prod.fst

end Closing

/-! ## A read without anything in between -/

namespace Reading

variable {α : Type} {q : Queue α} {r : Reading α}

/-- What a reader comes to that takes one step after another until its read is over. -/
inductive Runs : Queue α → Reading α → Queue α → List α → Prop
  | last {q q' : Queue α} {r : Reading α} {items : List α} (h : r.step q = (q', idle, items)) :
      Runs q r q' items
  | next {q q' q'' : Queue α} {r r' : Reading α} {items : List α} (h : r.step q = (q', r', []))
      (hbusy : r' ≠ idle) (hrest : Runs q' r' q'' items) : Runs q r q'' items

/-- A reader that takes what is there takes a batch. -/
theorem collect_runs {items : List α} (limit : Nat)
    (hlimit : items.length + limit = Queue.batchSize) :
    Runs q (collects items) (q.take limit).1 (items ++ (q.take limit).2) := by
  obtain ⟨capacity, lossy, elements, closed, ended, dropped⟩ := q
  induction elements generalizing items limit with
  | nil => exact .last (by simp [step, Queue.take, Queue.takeItems])
  | cons element rest ih =>
      cases limit with
      | zero =>
          have hfull : ¬items.length < Queue.batchSize := by omega
          exact .last (by simp [step, Queue.take, Queue.takeItems, hfull])
      | succ limit =>
          have hroom : items.length < Queue.batchSize := by omega
          cases element with
          | stop =>
              refine .next (by simp only [step, hroom, if_true]; rfl) (by exact nofun) (.last ?_)
              simp [step, Queue.take, Queue.takeItems]
          | item a =>
              have hnext : (items ++ [a]).length + limit = Queue.batchSize := by
                rw [List.length_append, List.length_singleton]
                omega
              refine .next (by simp only [step, hroom, if_true]; rfl) (by exact nofun) ?_
              simpa [Queue.take, Queue.takeItems] using ih limit hnext

/-- A reader that waits takes a batch of what is there, or gives up. -/
theorem wait_runs (hopen : q.elements = [] → q.closed = false) :
    Runs q waits (q.take Queue.batchSize).1 (q.take Queue.batchSize).2 := by
  obtain ⟨capacity, lossy, elements, closed, ended, dropped⟩ := q
  match elements with
  | [] =>
      obtain rfl : closed = false := hopen rfl
      exact .next rfl nofun (.last (by simp [step, goOn, Queue.take, Queue.takeItems]))
  | .stop :: rest =>
      exact .next rfl nofun (.last (by simp [step, Queue.take, Queue.takeItems, Queue.batchSize]))
  | .item a :: rest =>
      -- the first item ends the wait, and the others of the batch are there
      have hrest : Runs _ (collects [a]) _ _ :=
        collect_runs (q := ⟨capacity, lossy, rest, closed, ended, dropped⟩) 63 rfl
      exact .next rfl nofun (by simpa [Queue.take, Queue.takeItems, Queue.batchSize] using hrest)

/-- The steps of a read come to a read of the queue, if nothing else runs between them. -/
theorem read_runs (q : Queue α) : Runs q idle q.read.1 q.read.2 := by
  unfold Queue.read
  cases hended : q.ended with
  | true => exact .last (by simp [step, hended])
  | false =>
      have hlooks : step q idle = (q, looks false, []) := by simp [step, hended]
      refine .next hlooks nofun ?_
      cases hclosed : q.closed with
      | true =>
          have hchecks : step q (looks false) = (q, checks false, []) := by simp [step, hclosed]
          refine .next hchecks nofun ?_
          by_cases hempty : q.elements = []
          · have hends : step q (checks false) = (q, ends [], []) := by simp [step, hempty]
            simpa [hempty, hclosed] using Runs.next hends nofun (.last rfl)
          · have hwaits : step q (checks false) = (q, waits, []) := by simp [step, goOn, hempty]
            simpa [hempty] using Runs.next hwaits nofun (wait_runs fun hnone => absurd hnone hempty)
      | false =>
          have hwaits : step q (looks false) = (q, waits, []) := by simp [step, goOn, hclosed]
          exact .next hwaits nofun (wait_runs fun _ => hclosed)

end Reading

/-! ## What every step preserves -/

namespace Reading

variable {α : Type} {q : Queue α} {r : Reading α}

/-- An element that is put in behind an end mark is not come to. -/
theorem front_concat (elements : List (Queued α)) (element : Queued α) :
    front (elements ++ [element]) = front elements ++
      if elements.any fun element => element matches .stop then []
      else (Queue.item? element).toList := by
  induction elements with
  | nil => cases element <;> rfl
  | cons first rest ih =>
      cases first with
      | stop => rfl
      | item a => exact congrArg (a :: ·) ih

/-- An element that is put in behind the end is not come to. -/
theorem ahead_concat (q : Queue α) (r : Reading α) (element : Queued α) :
    r.ahead { q with elements := q.elements ++ [element] } =
      r.ahead q ++ if r.isOver q then [] else (Queue.item? element).toList := by
  unfold ahead isOver
  dsimp only
  cases hfound : q.ended || r.foundEnd with
  | true => rfl
  | false => exact front_concat q.elements element

/-- An item that comes in does not end a read. -/
theorem isOver_concat_item (q : Queue α) (r : Reading α) (a : α) :
    r.isOver { q with elements := q.elements ++ [.item a] } = r.isOver q := by
  simp [isOver]

/-- A reader that takes what is there. -/
def taking : Reading α → Bool
  | waits | collects _ => true
  | idle | looks _ | checks _ | ends _ => false

/-- What a step of a reader can lead to. -/
inductive Step (q : Queue α) : Reading α → Queue α × Reading α × List α → Prop
  | rests (hended : q.ended = true) : Step q idle (q, idle, [])
  | begins (hopen : q.ended = false) : Step q idle (q, looks false, [])
  | sees_closed {waited : Bool} (hclosed : q.closed = true) :
      Step q (looks waited) (q, checks waited, [])
  | sees_open {waited : Bool} : Step q (looks waited) (q, goOn waited, [])
  | sees_empty {waited : Bool} (hempty : q.elements = []) :
      Step q (checks waited) (q, ends [], [])
  | sees_items {waited : Bool} : Step q (checks waited) (q, goOn waited, [])
  | times_out : Step q waits (q, looks true, [])
  | takes {r : Reading α} {a : α} {rest : List (Queued α)} (htaking : r.taking = true)
      (helements : q.elements = .item a :: rest) :
      Step q r ({ q with elements := rest }, collects (r.held ++ [a]), [])
  | meets_end {r : Reading α} {rest : List (Queued α)} (htaking : r.taking = true)
      (helements : q.elements = .stop :: rest) :
      Step q r ({ q with elements := rest }, ends r.held, [])
  | returns {items : List α} : Step q (collects items) (q, idle, items)
  | says_end {items : List α} : Step q (ends items) ({ q with ended := true }, idle, items)

/-- The list of what a step can lead to is complete. -/
theorem step_step (q : Queue α) (r : Reading α) : Step q r (r.step q) := by
  cases r with
  | idle =>
      cases hended : q.ended with
      | true => simpa [step, hended] using Step.rests hended
      | false => simpa [step, hended] using Step.begins hended
  | looks waited =>
      cases hclosed : q.closed with
      | true => simpa [step, hclosed] using Step.sees_closed hclosed
      | false => simpa [step, hclosed] using Step.sees_open
  | checks waited =>
      by_cases hempty : q.elements = []
      · simpa [step, hempty] using Step.sees_empty hempty
      · simpa [step, hempty] using Step.sees_items
  | waits =>
      rw [step]
      split
      case h_1 => exact .times_out
      case h_2 helements => exact .takes rfl helements
      case h_3 helements => exact .meets_end rfl helements
  | collects items =>
      rw [step]
      split
      case isTrue =>
        split
        case h_1 => exact .returns
        case h_2 helements => exact .takes rfl helements
        case h_3 helements => exact .meets_end rfl helements
      case isFalse => exact .returns
  | ends items => exact .says_end

variable {next : Queue α × Reading α × List α}

/-- A reader that is not idle has not said that it found the end. -/
theorem ended_of_busy (hidle : q.ended = true → r = idle) (hbusy : r ≠ idle) : q.ended = false :=
  Bool.eq_false_iff.mpr fun hended => hbusy (hidle hended)

/-- A read that takes items is under way, and has not found the end. -/
theorem busy_of_taking (htaking : r.taking = true) : r ≠ idle ∧ r.foundEnd = false := by
  cases r with
  | idle | looks | checks | ends => cases htaking
  | waits | collects => exact ⟨nofun, rfl⟩

/-- A read that collects holds what it has. -/
@[simp]
theorem held_collects (items : List α) : (collects items).held = items :=
  rfl

/-- So does a read that ends. -/
@[simp]
theorem held_ends (items : List α) : (ends items).held = items :=
  rfl

/-- A read that collects has not found the end. -/
@[simp]
theorem foundEnd_collects (items : List α) : (collects items).foundEnd = false :=
  rfl

/-- A read that ends has. -/
@[simp]
theorem foundEnd_ends (items : List α) : (ends items).foundEnd = true :=
  rfl

/-- A step moves items from the queue to the reader and from there to whoever reads, and loses
none. -/
theorem Step.conserves (h : Step q r next) (hidle : q.ended = true → r = idle) :
    r.held ++ r.ahead q = next.2.2 ++ (next.2.1.held ++ next.2.1.ahead next.1) := by
  cases h with
  | rests | begins | sees_closed | times_out | returns => rfl
  | @sees_open waited | @sees_items waited => cases waited <;> rfl
  | sees_empty hempty =>
      -- nothing is there that could be lost
      have hnothing : front q.elements = [] := by
        rw [hempty]
        rfl
      show (if _ then [] else front q.elements) = ahead q (ends [])
      rw [hnothing, ite_self, ahead, foundEnd_ends, Bool.or_true, if_pos rfl]
  | takes htaking helements | meets_end htaking helements =>
      obtain ⟨hbusy, hnotFound⟩ := busy_of_taking htaking
      have hopen := ended_of_busy hidle hbusy
      simp [ahead, front, hopen, hnotFound, helements]
  | says_end => simp [ahead, held]

/-- Items that stand behind the end are not lost either; they stay in the queue. -/
theorem Step.conserves_items (h : Step q r next) :
    r.held ++ q.items = next.2.2 ++ (next.2.1.held ++ next.1.items) := by
  cases h with
  | rests | begins | sees_closed | sees_empty | times_out | returns | says_end => rfl
  | @sees_open waited | @sees_items waited => cases waited <;> rfl
  | takes _ helements => simp [Queue.items, helements, Queue.item?]
  | meets_end _ helements =>
      rw [Queue.items, helements]
      rfl

/-- A read that goes on returns nothing yet. -/
theorem Step.returns_nothing (h : Step q r next) (hbusy : next.2.1 ≠ idle) : next.2.2 = [] := by
  cases h with
  | returns | says_end => exact absurd rfl hbusy
  | rests | begins | sees_closed | sees_open | sees_empty | sees_items | times_out | takes
  | meets_end => rfl

/-- A reader that has said that it found the end is idle. -/
theorem Step.idle (h : Step q r next) (hidle : q.ended = true → r = idle) :
    next.1.ended = true → next.2.1 = idle := by
  cases h with
  | rests | returns | says_end => exact fun _ => rfl
  | begins hopen => exact fun hended => absurd (hopen.symm.trans hended) Bool.false_ne_true
  | sees_closed | sees_open | sees_empty | sees_items | times_out =>
      exact fun hended => absurd (hidle hended) nofun
  | takes htaking | meets_end htaking =>
      exact fun hended => absurd (hidle hended) (busy_of_taking htaking).1

/-- A reader that does not find a queue closed does not find its end. -/
theorem Step.closed_of_over (h : Step q r next)
    (hchecks : ∀ waited, r = checks waited → q.closed = true)
    (hover : r.isOver q = true → q.closed = true) :
    next.2.1.isOver next.1 = true → q.closed = true := by
  cases h with
  | rests | begins | times_out | returns => exact hover
  | @sees_open waited | @sees_items waited => cases waited <;> exact hover
  | sees_closed hclosed => exact fun _ => hclosed
  | sees_empty => exact fun _ => hchecks _ rfl
  | takes htaking helements =>
      have hnotFound := (busy_of_taking htaking).2
      exact fun hnext => hover (by simpa [isOver, hnotFound, helements] using hnext)
  | meets_end _ helements => exact fun _ => hover (by simp [isOver, helements])
  | says_end => exact fun _ => hover (by simp [isOver])

/-- A reader checks whether a queue is empty after it has found it closed. -/
theorem Step.closed_of_checks (h : Step q r next) {waited : Bool}
    (hchecks : next.2.1 = checks waited) : q.closed = true := by
  cases h with
  | sees_closed hclosed => exact hclosed
  | rests | begins | sees_empty | times_out | takes | meets_end | returns | says_end =>
      cases hchecks
  | @sees_open waited | @sees_items waited => cases waited <;> cases hchecks

/-- What a step leaves alone. -/
theorem Step.frame (h : Step q r next) :
    next.1.closed = q.closed ∧ next.1.lossy = q.lossy ∧ next.1.dropped = q.dropped := by
  cases h <;> exact ⟨rfl, rfl, rfl⟩

end Reading

namespace Closing

variable {α : Type} {s : Closing α} {capacity : Nat} {lossy : Bool}

/-- What holds of every queue that is used and closed. -/
structure Sound (s : Closing α) : Prop where
  /-- What was kept was returned, is held by the reader or will be taken by it, in this order. -/
  kept : s.kept = s.returned ++ (s.reading.held ++ s.reading.ahead s.queue)
  idle : s.queue.ended = true → s.reading = .idle
  /-- What was dropped is counted. -/
  dropped : (s.told.filter (·.2 = .dropped)).length = s.queue.dropped
  lossless : s.queue.lossy = false → ∀ item ∈ s.told, item.2 ≠ .dropped
  /-- Nothing ends a queue but a close. -/
  marking : s.marking = true → s.queue.closed = true
  checks : ∀ waited, s.reading = .checks waited → s.queue.closed = true
  isOver : s.reading.isOver s.queue = true → s.queue.closed = true
  in_time : s.queue.closed = false → ∀ item ∈ s.told, item.2 ≠ .behind

/-- At the start nothing was written, and nothing is lost. -/
theorem start_sound (capacity : Nat) (lossy : Bool) : (start capacity lossy : Closing α).Sound where
  kept := rfl
  idle := nofun
  dropped := rfl
  lossless _ := List.forall_mem_nil _
  marking := nofun
  checks _ := nofun
  isOver := nofun
  in_time _ := List.forall_mem_nil _

/-- The account holds when a read goes on. -/
theorem Sound.read (h : s.Sound) : s.read.Sound := by
  have hstep := Reading.step_step s.queue s.reading
  obtain ⟨hclosed, hlossy, hdropped⟩ := hstep.frame
  refine ⟨?_, hstep.idle h.idle, ?_, ?_, ?_, ?_, ?_, ?_⟩
  · exact (h.kept.trans (congrArg (s.returned ++ ·) (hstep.conserves h.idle))).trans
      (List.append_assoc ..).symm
  · exact h.dropped.trans hdropped.symm
  · exact fun hblocks => h.lossless (hlossy.symm.trans hblocks)
  · exact fun hmarking => hclosed.trans (h.marking hmarking)
  · exact fun waited hchecks => hclosed.trans (hstep.closed_of_checks hchecks)
  · exact fun hover => hclosed.trans (hstep.closed_of_over h.checks h.isOver hover)
  · exact fun hopen => h.in_time (hclosed.symm.trans hopen)

/-- A write that is over has lost its item to a full queue, or has put it in. -/
theorem enqueue_cases {q : Queue α} {a : α} (hroom : (q.enqueue a).2 ≠ .waits) :
    (q.lossy = true ∧ q.enqueue a = ({ q with dropped := q.dropped + 1 }, .lost)) ∨
      q.enqueue a = ({ q with elements := q.elements ++ [.item a] }, .accepted) := by
  unfold Queue.enqueue at hroom ⊢
  split at hroom
  case isTrue hfull =>
    rw [if_pos hfull]
    split at hroom
    case isTrue hlossy => exact .inl ⟨hlossy, if_pos hlossy⟩
    case isFalse => exact absurd rfl hroom
  case isFalse hfree => exact .inr (if_neg hfree)

/-- What is kept after one more write. -/
theorem kept_concat (s : Closing α) (a : α) (fate : Fate) :
    ((s.told ++ [(a, fate)]).filter (·.2 = .kept)).map Prod.fst =
      s.kept ++ if fate = .kept then [a] else [] := by
  rw [List.filter_append, List.map_append, kept]
  cases fate <;> rfl

/-- The account holds when a lossy queue drops an item. -/
theorem Sound.drops (h : s.Sound) (hlossy : s.queue.lossy = true) (admitted : List α) (a : α) :
    Sound { s with
      queue := { s.queue with dropped := s.queue.dropped + 1 }
      admitted
      told := s.told ++ [(a, .dropped)] } :=
  { h with
    kept := (s.kept_concat a .dropped).trans ((List.append_nil _).trans h.kept)
    dropped := by
      rw [List.filter_append, List.length_append, h.dropped]
      rfl
    lossless := fun hblocks => absurd (hlossy.symm.trans hblocks) Bool.noConfusion
    in_time := fun hopen => List.forall_mem_append.mpr
      ⟨h.in_time hopen, List.forall_mem_singleton.mpr nofun⟩ }

/-- An item that is put in is kept, unless it stands behind the end. -/
theorem Sound.accepts (h : s.Sound) (admitted : List α) (a : α) :
    Sound { s with
      queue := { s.queue with elements := s.queue.elements ++ [.item a] }
      admitted
      told := s.told ++ [(a, s.fate .accepted)] } := by
  have hfate : s.fate .accepted ≠ .dropped := by
    unfold fate
    cases s.reading.isOver s.queue <;> exact nofun
  refine { h with kept := ?_, dropped := ?_, lossless := ?_, isOver := ?_, in_time := ?_ }
  · refine (s.kept_concat a _).trans ?_
    rw [Reading.ahead_concat, h.kept, fate]
    cases s.reading.isOver s.queue <;> simp [Queue.item?]
  · rw [List.filter_append, List.filter_cons_of_neg (by simpa using hfate), List.filter_nil,
      List.append_nil]
    exact h.dropped
  · exact fun hblocks => List.forall_mem_append.mpr
      ⟨h.lossless hblocks, List.forall_mem_singleton.mpr hfate⟩
  · rw [Reading.isOver_concat_item]
    exact h.isOver
  · refine fun hopen => List.forall_mem_append.mpr
      ⟨h.in_time hopen, List.forall_mem_singleton.mpr ?_⟩
    -- the end is not found or marked while the queue is open
    have hover : s.reading.isOver s.queue = false :=
      Bool.eq_false_iff.mpr fun hover =>
        absurd (hopen.symm.trans (h.isOver hover)) Bool.false_ne_true
    rw [fate, hover]
    exact nofun

/-- The account holds when a writer puts an item in. -/
theorem Sound.put (h : s.Sound) (writer : Nat) {a : α} (hroom : (s.queue.enqueue a).2 ≠ .waits) :
    (s.put writer a).Sound := by
  unfold Closing.put
  rcases enqueue_cases hroom with ⟨hlossy, hlost⟩ | haccepted
  · rw [hlost]
    exact h.drops hlossy _ a
  · rw [haccepted]
    exact h.accepts _ a

/-- The account holds when the end mark is put in. -/
theorem Sound.marks (h : s.Sound) (hmarking : s.marking = true) :
    Sound { s with queue := s.queue.putStop, marking := false } := by
  have hclosed := h.marking hmarking
  unfold Queue.putStop
  split
  case isTrue => exact { h with marking := nofun }
  case isFalse =>
    refine { h with kept := ?_, marking := nofun, isOver := fun _ => hclosed }
    refine h.kept.trans ?_
    rw [Reading.ahead_concat, Queue.item?, Option.toList_none, ite_self, List.append_nil]

/-- So it holds wherever writers, readers and closing lead. -/
theorem Reaches.sound (h : Reaches capacity lossy s) : s.Sound := by
  induction h with
  | start => exact start_sound capacity lossy
  | looks _ _ _ ih => exact { ih with }
  | puts _ _ _ hroom ih => exact ih.put _ hroom
  | refuses _ _ ih =>
      exact { ih with
        marking := fun _ => rfl
        checks := fun _ _ => rfl
        isOver := fun _ => rfl
        in_time := nofun }
  | marks _ hmarking ih => exact ih.marks hmarking
  | reads _ ih => exact ih.read

/-- Where the end was found, nothing that was kept is missing. -/
theorem Sound.kept_eq_returned (h : s.Sound) (hended : s.queue.ended = true) :
    s.kept = s.returned := by
  have hnothing : s.reading.ahead s.queue = [] := by
    rw [Reading.ahead, hended, Bool.true_or, if_pos rfl]
  rw [h.kept, hnothing, h.idle hended, Reading.held, List.append_nil, List.append_nil]

/-- What was put in was kept, unless it came behind the end. -/
theorem accepted_eq_kept (h : ∀ item ∈ s.told, item.2 ≠ .behind) : s.accepted = s.kept := by
  refine congrArg (List.map Prod.fst) (List.filter_congr fun item hitem => ?_)
  have hnotBehind := h item hitem
  cases hfate : item.2 with
  | kept | dropped => rfl
  | behind => exact absurd hfate hnotBehind

/-- What was put in was returned, is held by the reader or is still there, in this order. -/
theorem Reaches.accepted_eq (h : Reaches capacity lossy s) :
    s.accepted = s.returned ++ (s.reading.held ++ s.queue.items) := by
  have hconcat (s : Closing α) (a : α) (fate : Fate) :
      ((s.told ++ [(a, fate)]).filter (·.2 ≠ .dropped)).map Prod.fst =
        s.accepted ++ if fate = .dropped then [] else [a] := by
    rw [List.filter_append, List.map_append, accepted]
    cases fate <;> rfl
  induction h with
  | start => rfl
  | looks _ _ _ ih | refuses _ _ ih => exact ih
  | @puts s _ writer a _ hroom ih =>
      refine (hconcat s a _).trans ?_
      have hitems := s.queue.items_enqueue a
      rw [ih, List.append_assoc, List.append_assoc, put, hitems, fate]
      rcases enqueue_cases hroom with ⟨-, hlost⟩ | haccepted
      · rw [hlost]
        simp
      · rw [haccepted]
        cases s.reading.isOver s.queue <;> simp
  | marks _ _ ih => exact ih.trans (by rw [Queue.items_putStop])
  | @reads s _ ih =>
      refine ih.trans ?_
      rw [(Reading.step_step s.queue s.reading).conserves_items, ← List.append_assoc]
      rfl

/-- The mode of a queue is that it was made with. -/
theorem Reaches.lossy_eq (h : Reaches capacity lossy s) : s.queue.lossy = lossy := by
  induction h with
  | start => rfl
  | looks _ _ _ ih | refuses _ _ ih => exact ih
  | puts _ _ _ _ ih => exact (Queue.enqueue_flags _ _).2.trans ih
  | marks _ _ ih => exact (Queue.putStop_lossy _).trans ih
  | reads _ ih => exact (Reading.step_step _ _).frame.2.1.trans ih

/-- A reader may take one step after another until its read is over. -/
theorem Reaches.runs {q : Queue α} {items : List α}
    (hruns : Reading.Runs s.queue s.reading q items) (h : Reaches capacity lossy s) :
    Reaches capacity lossy
      { s with queue := q, reading := .idle, returned := s.returned ++ items } := by
  obtain ⟨queue, admitted, marking, reading, told, returned⟩ := s
  dsimp only at hruns ⊢
  induction hruns with
  | last hstep =>
      have hread := h.reads
      rwa [Closing.read, hstep] at hread
  | next hstep _ _ ih =>
      have hread := h.reads
      rw [Closing.read, hstep] at hread
      dsimp only at hread
      rw [List.append_nil] at hread
      exact ih hread

/-- A reader may make a whole read. -/
theorem Reaches.read_whole (h : Reaches capacity lossy s) (hidle : s.reading = .idle) :
    Reaches capacity lossy { s with
      queue := s.queue.read.1
      reading := .idle
      returned := s.returned ++ s.queue.read.2 } :=
  h.runs (hidle ▸ Reading.read_runs s.queue)

/-- When a reader finds the end, it has returned everything that was kept: whatever was put in in
front of the end and did not meet a full lossy queue. What such a queue drops is counted, a queue
that is not lossy drops nothing, and nothing is put in behind the end before the queue is closed. -/
theorem Reaches.kept_items_are_returned (h : Reaches capacity lossy s) :
    (s.queue.ended = true → s.kept <+: s.returned) ∧
      (s.told.filter (·.2 = .dropped)).length = s.queue.dropped ∧
      (lossy = false → ∀ item ∈ s.told, item.2 ≠ .dropped) ∧
      (s.queue.closed = false → ∀ item ∈ s.told, item.2 ≠ .behind) := by
  have hsound := h.sound
  refine ⟨fun hended => ?_, hsound.dropped, ?_, hsound.in_time⟩
  · exact ⟨[], by rw [hsound.kept_eq_returned hended, List.append_nil]⟩
  · rw [← h.lossy_eq]
    exact hsound.lossless

/-- A writer that was let in puts its item in while the queue is being closed, and the item is
returned. -/
theorem kept_between_halves : ∃ s : Closing Nat, Reaches 0 false s ∧ s.queue.ended = true ∧
    s.told = [(5, .kept)] ∧ [5] <+: s.returned := by
  have hstart : Reaches 0 false (start 0 false : Closing Nat) := .start
  have hput := ((hstart.looks rfl 5).refuses rfl).puts 0 rfl (by decide)
  have hread := (hput.marks rfl).read_whole rfl
  exact ⟨_, hread, rfl, rfl, hread.kept_items_are_returned.1 rfl⟩

/-- A write that returns without an error may have lost its item: a full lossy queue drops it, and
a slow writer puts it in behind the end mark, on any queue. -/
theorem told_items_can_be_missing :
    (¬∀ s : Closing Nat, Reaches 1 true s → s.queue.ended = true →
      ∀ item ∈ s.told, item.1 ∈ s.returned) ∧
    ¬∀ s : Closing Nat, Reaches 0 false s → s.queue.ended = true →
      ∀ item ∈ s.told, item.1 ∈ s.returned := by
  constructor
  · intro hreturned
    have hstart : Reaches 1 true (start 1 true : Closing Nat) := .start
    have hfirst := (hstart.looks rfl 5).puts 0 rfl (by decide)
    have hsecond := (hfirst.looks rfl 6).puts 0 rfl (by decide)
    have hclosed := (hsecond.refuses rfl).marks rfl
    have hread := (hclosed.read_whole rfl).read_whole rfl
    have hmissing := hreturned _ hread rfl (6, .dropped) (by decide)
    exact absurd hmissing (by decide)
  · intro hreturned
    have hstart : Reaches 0 false (start 0 false : Closing Nat) := .start
    have hclosed := ((hstart.looks rfl 5).refuses rfl).marks rfl
    have hread := (hclosed.puts 0 rfl (by decide)).read_whole rfl
    have hmissing := hreturned _ hread rfl (5, .behind) (by decide)
    exact absurd hmissing (by decide)

end Closing

end GroundLink
