import GroundLink.Proofs.Link.Queue

/-!
# What passes through a queue

Whoever has a queue may write to it, read it, drain it and close it. `Traffic.perform` makes one
such call and notes what was accepted and what came out; read it first. A queue is `Orderly` while
its end mark, if there is one, stands behind all items and the queue is closed. Every call leaves an
orderly queue behind, so nothing is overtaken, and a reader that has found the end has missed
nothing. `run_is_lossless` says what this comes to over all sequences of calls.
-/

namespace GroundLink

/-- Whether a writer is told that all is well. It is not told that an item was lost. -/
def Written.isOk : Written → Bool
  | accepted | lost => true
  | refused | waits => false

/-! ## Where the end mark stands -/

namespace Queue

variable {α : Type} {q : Queue α}

/-- Without an end mark, items are taken from the front. -/
theorem takeItems_items (limit : Nat) (items : List α) :
    takeItems limit (items.map Queued.item) =
      (items.take limit, (items.drop limit).map Queued.item, false) := by
  induction items generalizing limit with
  | nil => simp [takeItems]
  | cons a rest ih =>
      cases limit with
      | zero => rfl
      | succ limit => simp [takeItems, ih]

/-- An end mark is passed if more is asked for than what stands in front of it. -/
theorem takeItems_marked (limit : Nat) (items : List α) :
    takeItems limit (items.map Queued.item ++ [.stop]) =
      if limit ≤ items.length then
        (items.take limit, (items.drop limit).map Queued.item ++ [.stop], false)
      else (items, [], true) := by
  induction items generalizing limit with
  | nil => cases limit <;> rfl
  | cons a rest ih =>
      cases limit with
      | zero => rfl
      | succ limit =>
          simp only [List.map_cons, List.cons_append, takeItems, ih, List.length_cons,
            Nat.add_le_add_iff_right]
          split <;> rfl

/-- No more is taken than the limit says. -/
theorem length_takeItems_fst_le (limit : Nat) (elements : List (Queued α)) :
    (takeItems limit elements).1.length ≤ limit := by
  fun_induction takeItems limit elements with
  | case1 | case2 | case3 => exact Nat.zero_le _
  | case4 rest limit a items left ended htake ih =>
      rw [htake] at ih
      exact Nat.succ_le_succ ih

/-- What holds of a queue whose calls follow one another. -/
structure Orderly (q : Queue α) : Prop where
  /-- An end mark stands behind all items, and only in a closed queue. -/
  elements : ∃ items : List α, q.elements = items.map Queued.item ∨
    q.closed = true ∧ q.elements = items.map Queued.item ++ [.stop]
  /-- Where the end was found, the queue is closed and empty. -/
  ended : q.ended = true → q.closed = true ∧ q.elements = []
  bounded : q.capacity ≠ 0 → q.size ≤ q.capacity

/-- A new queue is orderly. -/
theorem new_orderly (capacity : Nat) (lossy : Bool) : (new capacity lossy : Queue α).Orderly where
  elements := ⟨[], .inl rfl⟩
  ended := nofun
  bounded _ := Nat.zero_le capacity

/-- A queue that is open holds nothing but items, and its end was not found. -/
theorem Orderly.of_open (h : q.Orderly) (hopen : q.closed = false) :
    (∃ items : List α, q.elements = items.map Queued.item) ∧ q.ended = false := by
  have hclosed : ¬q.closed = true := by simp [hopen]
  obtain ⟨items, hitems⟩ := h.elements
  refine ⟨⟨items, hitems.resolve_right fun hmarked => hclosed hmarked.1⟩, ?_⟩
  exact Bool.eq_false_iff.mpr fun hended => hclosed (h.ended hended).1

/-- There is room in a queue without a capacity, and below it. -/
theorem isFull_eq_false_iff (q : Queue α) :
    q.isFull = false ↔ q.capacity = 0 ∨ q.size < q.capacity := by
  simp only [isFull, Bool.and_eq_false_iff, bne_eq_false_iff_eq, decide_eq_false_iff_not,
    Nat.not_le]

/-- Where there is room for one more, the queue does not grow too long. -/
theorem bounded_concat (hroom : q.isFull = false) (element : Queued α)
    (hcapacity : q.capacity ≠ 0) : (q.elements ++ [element]).length ≤ q.capacity := by
  have hlt : q.elements.length < q.capacity := by
    exact ((isFull_eq_false_iff q).mp hroom).resolve_left hcapacity
  rw [List.length_append, List.length_singleton]
  exact hlt

/-- What a write can lead to. -/
theorem write_cases (q : Queue α) (a : α) :
    (q.closed = true ∧ q.write a = (q, .refused)) ∨
    (q.closed = false ∧ q.isFull = true ∧ q.lossy = true ∧
      q.write a = ({ q with dropped := q.dropped + 1 }, .lost)) ∨
    (q.closed = false ∧ q.isFull = true ∧ q.lossy = false ∧ q.write a = (q, .waits)) ∨
    (q.closed = false ∧ q.isFull = false ∧
      q.write a = ({ q with elements := q.elements ++ [.item a] }, .accepted)) := by
  cases hclosed : q.closed <;> cases hfull : q.isFull <;> cases hlossy : q.lossy <;>
    simp [write, enqueue, hclosed, hfull, hlossy]

/-- A write leaves a queue orderly. -/
theorem Orderly.write (h : q.Orderly) (a : α) : (q.write a).1.Orderly := by
  rcases q.write_cases a with ⟨-, hwrite⟩ | ⟨-, -, -, hwrite⟩ | ⟨-, -, -, hwrite⟩ |
    ⟨hopen, hroom, hwrite⟩
  · rw [hwrite]
    exact h
  · rw [hwrite]
    exact { h with }
  · rw [hwrite]
    exact h
  · rw [hwrite]
    obtain ⟨⟨items, hitems⟩, hunended⟩ := h.of_open hopen
    refine ⟨⟨items ++ [a], .inl ?_⟩, ?_, bounded_concat hroom _⟩
    · simp [hitems]
    · intro hended
      exact absurd (hunended.symm.trans hended) Bool.false_ne_true

/-- Whatever is taken out, what is left is orderly. -/
theorem Orderly.take (h : q.Orderly) (limit : Nat) : (q.take limit).1.Orderly := by
  have hbounded : q.capacity ≠ 0 → (q.take limit).1.size ≤ q.capacity := fun hcapacity =>
    Nat.le_trans (q.size_take_le limit) (h.bounded hcapacity)
  obtain ⟨items, hitems | ⟨hclosed, hmarked⟩⟩ := h.elements
  · have htake : q.take limit =
        ({ q with elements := (items.drop limit).map Queued.item }, items.take limit) := by
      simp only [Queue.take, hitems, takeItems_items, Bool.or_false]
    rw [htake] at hbounded ⊢
    refine ⟨⟨_, .inl rfl⟩, ?_, hbounded⟩
    intro hended
    obtain ⟨hclosed, hempty⟩ := h.ended hended
    obtain rfl : items = [] := by simpa [hitems] using hempty
    exact ⟨hclosed, by simp⟩
  · by_cases hlimit : limit ≤ items.length
    · have htake : q.take limit =
          ({ q with elements := (items.drop limit).map Queued.item ++ [.stop] },
            items.take limit) := by
        simp only [Queue.take, hmarked, takeItems_marked, if_pos hlimit, Bool.or_false]
      rw [htake] at hbounded ⊢
      refine ⟨⟨_, .inr ⟨hclosed, rfl⟩⟩, ?_, hbounded⟩
      intro hended
      -- an end that was found would have left no mark
      obtain ⟨-, hempty⟩ := h.ended hended
      simp [hmarked] at hempty
    · have htake : q.take limit = ({ q with elements := [], ended := true }, items) := by
        simp only [Queue.take, hmarked, takeItems_marked, if_neg hlimit, Bool.or_true]
      rw [htake] at hbounded ⊢
      exact ⟨⟨[], .inl rfl⟩, fun _ => ⟨hclosed, rfl⟩, hbounded⟩

/-- What a read can lead to. -/
theorem read_cases (q : Queue α) :
    (q.ended = true ∧ q.read = (q, [])) ∨
    (q.ended = false ∧ q.closed = true ∧ q.elements = [] ∧
      q.read = ({ q with ended := true }, [])) ∨
    (q.ended = false ∧ (q.closed = true → 0 < q.size) ∧ q.read = q.take batchSize) := by
  cases hended : q.ended with
  | true => exact .inl ⟨rfl, read_of_ended hended⟩
  | false =>
      by_cases hover : q.closed = true ∧ q.elements = []
      · obtain ⟨hclosed, hempty⟩ := hover
        refine .inr (.inl ⟨rfl, hclosed, hempty, ?_⟩)
        simp [read, hended, hclosed, hempty]
      · refine .inr (.inr ⟨rfl, fun hclosed => ?_, ?_⟩)
        · exact List.length_pos_iff.mpr fun hempty => hover ⟨hclosed, hempty⟩
        · simp only [read, hended, Bool.false_eq_true, if_false]
          rw [if_neg]
          simpa using hover

/-- A read leaves a queue orderly. -/
theorem Orderly.read (h : q.Orderly) : q.read.1.Orderly := by
  rcases q.read_cases with ⟨-, hread⟩ | ⟨-, hclosed, hempty, hread⟩ | ⟨-, -, hread⟩
  · rw [hread]
    exact h
  · rw [hread]
    exact ⟨h.elements, fun _ => ⟨hclosed, hempty⟩, h.bounded⟩
  · rw [hread]
    exact h.take batchSize

/-- What a close can lead to. A full queue has no room for the mark. -/
theorem close_cases (q : Queue α) :
    (q.closed = true ∧ q.close = q) ∨
    (q.closed = false ∧ q.isFull = true ∧ q.close = { q with closed := true }) ∨
    (q.closed = false ∧ q.isFull = false ∧
      q.close = { q with closed := true, elements := q.elements ++ [.stop] }) := by
  cases hclosed : q.closed with
  | true => exact .inl ⟨rfl, by simp [close, hclosed]⟩
  | false =>
      have hfull : q.refuse.isFull = q.isFull := rfl
      cases hroom : q.isFull with
      | true =>
          refine .inr (.inl ⟨rfl, rfl, ?_⟩)
          simp only [close, hclosed, putStop, hfull, hroom, if_true]
          rfl
      | false =>
          refine .inr (.inr ⟨rfl, rfl, ?_⟩)
          simp only [close, hclosed, putStop, hfull, hroom]
          rfl

/-- Closing leaves a queue orderly. -/
theorem Orderly.close (h : q.Orderly) : q.close.Orderly := by
  rcases q.close_cases with ⟨-, hclose⟩ | ⟨hopen, -, hclose⟩ | ⟨hopen, hroom, hclose⟩
  · rw [hclose]
    exact h
  · rw [hclose]
    obtain ⟨⟨items, hitems⟩, hunended⟩ := h.of_open hopen
    exact ⟨⟨items, .inl hitems⟩, by simp [hunended], h.bounded⟩
  · rw [hclose]
    obtain ⟨⟨items, hitems⟩, hunended⟩ := h.of_open hopen
    exact ⟨⟨items, .inr ⟨rfl, by simp [hitems]⟩⟩, by simp [hunended], bounded_concat hroom _⟩

/-- An item is in the queue if it was accepted. -/
theorem items_write (q : Queue α) (a : α) :
    (q.write a).1.items = q.items ++ if (q.write a).2 = .accepted then [a] else [] := by
  rcases q.write_cases a with ⟨-, h⟩ | ⟨-, -, -, h⟩ | ⟨-, -, -, h⟩ | ⟨-, -, h⟩
  · simp [h]
  · simp [h, items]
  · simp [h]
  · simp [h, items, item?]

/-- An item that its writer takes for written is in the queue, or is counted as lost. -/
theorem dropped_write (q : Queue α) (a : α) :
    (if (q.write a).2 = .accepted then 1 else 0) + (q.write a).1.dropped =
      q.dropped + if (q.write a).2.isOk then 1 else 0 := by
  rcases q.write_cases a with ⟨-, h⟩ | ⟨-, -, -, h⟩ | ⟨-, -, -, h⟩ | ⟨-, -, h⟩
  · simp [h, Written.isOk]
  · simp [h, Written.isOk]
  · simp [h, Written.isOk]
  · simp [h, Written.isOk, Nat.add_comm]

/-- Only a lossy queue loses items. -/
theorem dropped_write_of_not_lossy (h : q.lossy = false) (a : α) :
    (q.write a).1.dropped = q.dropped := by
  rcases q.write_cases a with ⟨-, hwrite⟩ | ⟨-, -, hlossy, -⟩ | ⟨-, -, -, hwrite⟩ | ⟨-, -, hwrite⟩
  · rw [hwrite]
  · exact absurd (h.symm.trans hlossy) Bool.false_ne_true
  · rw [hwrite]
  · rw [hwrite]

/-- A writer gets in while the queue is open and has room. -/
theorem write_accepted_iff (q : Queue α) (a : α) :
    (q.write a).2 = .accepted ↔ q.closed = false ∧ q.isFull = false := by
  rcases q.write_cases a with ⟨hclosed, h⟩ | ⟨-, hfull, -, h⟩ | ⟨-, hfull, -, h⟩ | ⟨hopen, hroom, h⟩
  · simp [h, hclosed]
  · simp [h, hfull]
  · simp [h, hfull]
  · simp [h, hopen, hroom]

/-- Closing takes nothing out. -/
theorem items_close (q : Queue α) : q.close.items = q.items := by
  unfold close
  split
  case isTrue => rfl
  case isFalse => exact q.refuse.items_putStop

/-! ## What a call leaves alone -/

/-- A write does not change the capacity. -/
@[simp]
theorem capacity_write (q : Queue α) (a : α) : (q.write a).1.capacity = q.capacity := by
  rcases q.write_cases a with h | h | h | h <;> simp [h]

/-- A write does not change the mode. -/
@[simp]
theorem lossy_write (q : Queue α) (a : α) : (q.write a).1.lossy = q.lossy := by
  rcases q.write_cases a with h | h | h | h <;> simp [h]

/-- A write does not close a queue. -/
@[simp]
theorem closed_write (q : Queue α) (a : α) : (q.write a).1.closed = q.closed := by
  rcases q.write_cases a with h | h | h | h <;> simp [h]

/-- A write is no end to reading. -/
@[simp]
theorem ended_write (q : Queue α) (a : α) : (q.write a).1.ended = q.ended := by
  rcases q.write_cases a with h | h | h | h <;> simp [h]

/-- Taking items does not change the capacity. -/
@[simp]
theorem capacity_take (q : Queue α) (limit : Nat) : (q.take limit).1.capacity = q.capacity :=
  rfl

/-- Taking items does not change the mode. -/
@[simp]
theorem lossy_take (q : Queue α) (limit : Nat) : (q.take limit).1.lossy = q.lossy :=
  rfl

/-- Taking items does not close a queue. -/
@[simp]
theorem closed_take (q : Queue α) (limit : Nat) : (q.take limit).1.closed = q.closed :=
  rfl

/-- Taking items drops nothing. -/
@[simp]
theorem dropped_take (q : Queue α) (limit : Nat) : (q.take limit).1.dropped = q.dropped :=
  rfl

/-- A read does not change the capacity. -/
@[simp]
theorem capacity_read (q : Queue α) : q.read.1.capacity = q.capacity := by
  rcases q.read_cases with h | h | h <;> simp [h]

/-- A read does not change the mode. -/
@[simp]
theorem lossy_read (q : Queue α) : q.read.1.lossy = q.lossy := by
  rcases q.read_cases with h | h | h <;> simp [h]

/-- A read does not close a queue. -/
@[simp]
theorem closed_read (q : Queue α) : q.read.1.closed = q.closed := by
  rcases q.read_cases with h | h | h <;> simp [h]

/-- A read drops nothing. -/
@[simp]
theorem dropped_read (q : Queue α) : q.read.1.dropped = q.dropped := by
  rcases q.read_cases with h | h | h <;> simp [h]

/-- Closing does not change the capacity. -/
@[simp]
theorem capacity_close (q : Queue α) : q.close.capacity = q.capacity := by
  rcases q.close_cases with h | h | h <;> simp [h]

/-- Closing does not change the mode. -/
@[simp]
theorem lossy_close (q : Queue α) : q.close.lossy = q.lossy := by
  rcases q.close_cases with h | h | h <;> simp [h]

/-- A queue that was closed is closed. -/
@[simp]
theorem closed_close (q : Queue α) : q.close.closed = true := by
  rcases q.close_cases with h | h | h <;> simp [h]

/-- Closing does not end the reading of what is left. -/
@[simp]
theorem ended_close (q : Queue α) : q.close.ended = q.ended := by
  rcases q.close_cases with h | h | h <;> simp [h]

/-- Closing drops nothing. -/
@[simp]
theorem dropped_close (q : Queue α) : q.close.dropped = q.dropped := by
  rcases q.close_cases with h | h | h <;> simp [h]

/-- A closed queue refuses a write and stays as it is. -/
theorem write_of_closed (h : q.closed = true) (a : α) : q.write a = (q, .refused) := by
  simp [write, h]

/-- Closing again does nothing. -/
theorem close_of_closed (h : q.closed = true) : q.close = q := by
  simp [close, h]

/-- A read gives a batch at most. -/
theorem length_read_le (q : Queue α) : q.read.2.length ≤ batchSize := by
  rcases q.read_cases with ⟨-, h⟩ | ⟨-, -, -, h⟩ | ⟨-, -, h⟩
  · simp [h]
  · simp [h]
  · rw [h]
    exact length_takeItems_fst_le batchSize q.elements

/-- A read does not add to a queue. -/
theorem size_read_le (q : Queue α) : q.read.1.size ≤ q.size := by
  rcases q.read_cases with ⟨-, h⟩ | ⟨-, -, -, h⟩ | ⟨-, -, h⟩
  · simp [h]
  · simp [h, size]
  · rw [h]
    exact q.size_take_le batchSize

/-- A read of a closed queue finds the end, or takes something out. -/
theorem read_progress (hclosed : q.closed = true) :
    q.read.1.ended = true ∨ q.read.1.size < q.size := by
  rcases q.read_cases with ⟨hended, h⟩ | ⟨-, -, -, h⟩ | ⟨-, hsize, h⟩
  · exact .inl (by simp [h, hended])
  · exact .inl (by simp [h])
  · rw [h]
    exact .inr (size_take_lt (by decide) (hsize hclosed))

end Queue

/-! ## Calls one after another -/

/-- What may be done to a queue. -/
inductive QueueCall (α : Type) where
  | write (a : α)
  | read
  | drain
  | close

/-- Whether a call is a read. -/
def QueueCall.isRead {α : Type} : QueueCall α → Bool
  | read => true
  | write _ | drain | close => false

/-- A queue, and what its writers and readers were told. -/
structure Traffic (α : Type) where
  queue : Queue α
  /-- The items that were accepted, oldest first. -/
  accepted : List α
  /-- The items that came out, oldest first. -/
  returned : List α
  /-- The number of writes of which the writer was told that all is well. -/
  acknowledged : Nat

namespace Traffic

variable {α : Type}

/-- Make a call. A writer that waits for room has not written yet. -/
def perform (t : Traffic α) : QueueCall α → Traffic α
  | .write a =>
    { t with
      queue := (t.queue.write a).1
      accepted := t.accepted ++ if (t.queue.write a).2 = .accepted then [a] else []
      acknowledged := t.acknowledged + if (t.queue.write a).2.isOk then 1 else 0 }
  | .read =>
    { t with
      queue := t.queue.read.1
      returned := t.returned ++ t.queue.read.2 }
  | .drain =>
    { t with
      queue := t.queue.drain.1
      returned := t.returned ++ t.queue.drain.2 }
  | .close => { t with queue := t.queue.close }

/-- Make one call after another. -/
def performAll (t : Traffic α) (calls : List (QueueCall α)) : Traffic α :=
  calls.foldl perform t

/-- What calls of a new queue lead to. -/
def run (capacity : Nat) (lossy : Bool) (calls : List (QueueCall α)) : Traffic α :=
  performAll ⟨.new capacity lossy, [], [], 0⟩ calls

/-- What holds after all calls of a queue that was new. -/
structure Sound (capacity : Nat) (lossy : Bool) (t : Traffic α) : Prop where
  orderly : t.queue.Orderly
  hasCapacity : t.queue.capacity = capacity
  hasMode : t.queue.lossy = lossy
  conserved : t.returned ++ t.queue.items = t.accepted
  counted : t.acknowledged = t.accepted.length + t.queue.dropped
  lossless : lossy = false → t.queue.dropped = 0

variable {capacity : Nat} {lossy : Bool} {t : Traffic α}

/-- The accounts of a new queue are empty, and right. -/
theorem new_sound (capacity : Nat) (lossy : Bool) :
    Sound capacity lossy (⟨.new capacity lossy, [], [], 0⟩ : Traffic α) :=
  ⟨Queue.new_orderly capacity lossy, rfl, rfl, rfl, rfl, fun _ => rfl⟩

/-- One call leaves the accounts right. -/
theorem Sound.perform (h : t.Sound capacity lossy) (call : QueueCall α) :
    (t.perform call).Sound capacity lossy := by
  obtain ⟨horderly, hcapacity, hlossy, hconserved, hcounted, hlossless⟩ := h
  cases call with
  | write a =>
      refine ⟨horderly.write a, ?_, ?_, ?_, ?_, ?_⟩
      · simpa [Traffic.perform] using hcapacity
      · simpa [Traffic.perform] using hlossy
      · show t.returned ++ (t.queue.write a).1.items = t.accepted ++ _
        rw [t.queue.items_write a, ← List.append_assoc, hconserved]
      · show t.acknowledged + _ = (t.accepted ++ _).length + (t.queue.write a).1.dropped
        have hlength : (if (t.queue.write a).2 = .accepted then [a] else []).length =
            if (t.queue.write a).2 = .accepted then 1 else 0 := by
          split <;> rfl
        rw [List.length_append, hlength, Nat.add_assoc, t.queue.dropped_write a]
        omega
      · intro hkeeps
        show (t.queue.write a).1.dropped = 0
        rw [Queue.dropped_write_of_not_lossy (hlossy.trans hkeeps), hlossless hkeeps]
  | read =>
      refine ⟨horderly.read, ?_, ?_, ?_, ?_, ?_⟩
      · simpa [Traffic.perform] using hcapacity
      · simpa [Traffic.perform] using hlossy
      · show (t.returned ++ t.queue.read.2) ++ t.queue.read.1.items = t.accepted
        rw [List.append_assoc, ← t.queue.items_read, hconserved]
      · simpa [Traffic.perform] using hcounted
      · simpa [Traffic.perform] using hlossless
  | drain =>
      refine ⟨horderly.take _, hcapacity, hlossy, ?_, hcounted, hlossless⟩
      show (t.returned ++ t.queue.drain.2) ++ t.queue.drain.1.items = t.accepted
      rw [List.append_assoc, ← t.queue.items_drain, hconserved]
  | close =>
      refine ⟨horderly.close, ?_, ?_, ?_, ?_, ?_⟩
      · simpa [Traffic.perform] using hcapacity
      · simpa [Traffic.perform] using hlossy
      · show t.returned ++ t.queue.close.items = t.accepted
        rw [t.queue.items_close, hconserved]
      · simpa [Traffic.perform] using hcounted
      · simpa [Traffic.perform] using hlossless

/-- So do all calls of a list. -/
theorem Sound.performAll (h : t.Sound capacity lossy) (calls : List (QueueCall α)) :
    (t.performAll calls).Sound capacity lossy := by
  induction calls generalizing t with
  | nil => exact h
  | cons call rest ih => exact ih (h.perform call)

/-- A run goes on where the calls before it have led. -/
theorem run_append (capacity : Nat) (lossy : Bool) (first second : List (QueueCall α)) :
    run capacity lossy (first ++ second) = (run capacity lossy first).performAll second :=
  List.foldl_append

/-- Only a close closes a queue, and for ever. -/
theorem closed_perform (t : Traffic α) (call : QueueCall α) :
    (t.perform call).queue.closed = true ↔ t.queue.closed = true ∨ call = .close := by
  cases call <;> simp [perform, Queue.drain]

/-- A queue is closed by a call to close it and by nothing else. -/
theorem closed_performAll (t : Traffic α) (calls : List (QueueCall α)) :
    (t.performAll calls).queue.closed = true ↔ t.queue.closed = true ∨ .close ∈ calls := by
  induction calls generalizing t with
  | nil => simp [performAll]
  | cons call rest ih =>
      show ((t.perform call).performAll rest).queue.closed = true ↔ _
      rw [ih, closed_perform, List.mem_cons, or_assoc, eq_comm (a := call)]

/-- The end that was found is not lost again. -/
theorem ended_perform (h : t.queue.ended = true) (call : QueueCall α) :
    (t.perform call).queue.ended = true := by
  cases call with
  | write a => simpa [perform] using h
  | read => simp [perform, Queue.read_of_ended h, h]
  | drain => simp [perform, Queue.drain, Queue.take, h]
  | close => simpa [perform] using h

/-- A queue whose reading has ended stays so. -/
theorem ended_performAll (h : t.queue.ended = true) (calls : List (QueueCall α)) :
    (t.performAll calls).queue.ended = true := by
  induction calls generalizing t with
  | nil => exact h
  | cons call rest ih => exact ih (ended_perform h call)

/-- A closed queue does not grow. -/
theorem size_perform_le (h : t.queue.closed = true) (call : QueueCall α) :
    (t.perform call).queue.size ≤ t.queue.size := by
  cases call with
  | write a => simp [perform, Queue.write_of_closed h]
  | read => exact t.queue.size_read_le
  | drain => exact t.queue.size_take_le _
  | close => simp [perform, Queue.close_of_closed h]

/-- Reads of a closed queue find the end after as many items as there are, whatever else is done in
between. -/
theorem ended_of_reads (hclosed : t.queue.closed = true) {calls : List (QueueCall α)}
    (hreads : t.queue.size < calls.countP (·.isRead)) :
    (t.performAll calls).queue.ended = true := by
  induction calls generalizing t with
  | nil => simp at hreads
  | cons call rest ih =>
      have hstill : (t.perform call).queue.closed = true :=
        (closed_perform t call).mpr (.inl hclosed)
      have hsize := size_perform_le hclosed call
      cases call with
      | read =>
          rw [List.countP_cons_of_pos rfl] at hreads
          rcases t.queue.read_progress hclosed with hended | hless
          · exact ended_performAll hended rest
          · refine ih hstill ?_
            show t.queue.read.1.size < _
            omega
      | write | drain | close =>
          rw [List.countP_cons_of_neg Bool.false_ne_true] at hreads
          exact ih hstill (Nat.lt_of_le_of_lt hsize hreads)

/-- A queue loses nothing that it accepted and keeps its order, for all calls of its writers and
readers. What came out and what it still holds is what was accepted; a limit is never exceeded, and
no read gives more than a batch. A writer who is told that all is well has written an item that was
accepted or, if the queue is lossy, is counted as lost; a writer gets in while there is room, and is
refused after a close. Whoever finds the end has seen everything, and after a close the end is found
by one read more than there are elements. -/
theorem run_is_lossless (capacity : Nat) (lossy : Bool) (calls : List (QueueCall α)) :
    let t := run capacity lossy calls
    t.returned ++ t.queue.items = t.accepted ∧
    (capacity ≠ 0 → t.queue.size ≤ capacity) ∧
    t.queue.read.2.length ≤ Queue.batchSize ∧
    t.acknowledged = t.accepted.length + t.queue.dropped ∧
    (lossy = false → t.queue.dropped = 0) ∧
    (∀ a, (t.queue.write a).2 = .accepted ↔
      .close ∉ calls ∧ (capacity = 0 ∨ t.queue.size < capacity)) ∧
    (.close ∈ calls → ∀ a, t.queue.write a = (t.queue, .refused)) ∧
    (t.queue.ended = true → t.returned = t.accepted ∧ .close ∈ calls) ∧
    (.close ∈ calls → ∀ more, t.queue.size < more.countP (·.isRead) →
      (run capacity lossy (calls ++ more)).queue.ended = true) := by
  intro t
  have hsound : t.Sound capacity lossy := (new_sound capacity lossy).performAll calls
  have hclosed : t.queue.closed = true ↔ .close ∈ calls :=
    (closed_performAll _ calls).trans (by simp [Queue.new])
  refine ⟨hsound.conserved, ?_, t.queue.length_read_le, hsound.counted, hsound.lossless, ?_, ?_, ?_,
    ?_⟩
  · intro hcapacity
    have hbounded := hsound.orderly.bounded
    rw [hsound.hasCapacity] at hbounded
    exact hbounded hcapacity
  · intro a
    rw [t.queue.write_accepted_iff, t.queue.isFull_eq_false_iff, hsound.hasCapacity, ← hclosed,
      Bool.not_eq_true]
  · intro hclose a
    exact Queue.write_of_closed (hclosed.mpr hclose) a
  · intro hended
    obtain ⟨hover, hempty⟩ := hsound.orderly.ended hended
    have hconserved := hsound.conserved
    rw [Queue.items, hempty] at hconserved
    exact ⟨by simpa using hconserved, hclosed.mp hover⟩
  · intro hclose more hreads
    rw [run_append]
    exact ended_of_reads (hclosed.mpr hclose) hreads

/-- A lossy queue for two items is closed when it is full, so that there is no room for the mark. -/
example :
    let t := run 2 true [.write 'a', .write 'b', .write 'c', .close, .write 'd', .read, .read]
    t.accepted = ['a', 'b'] ∧ t.returned = ['a', 'b'] ∧ t.acknowledged = 3 ∧
      t.queue.dropped = 1 ∧ t.queue.ended = true := by
  decide

end Traffic

end GroundLink
