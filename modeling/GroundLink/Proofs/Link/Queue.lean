import GroundLink.Link.Queue

/-!
# What a queue holds

The items of a queue are its elements without the end mark. Taking items out gives them in the order
in which they stand, and putting one in puts it behind the others, so the readers of a queue see
what was accepted by it, in that order.
-/

namespace GroundLink

namespace Queue

variable {α : Type}

/-- The item of an element. -/
def item? : Queued α → Option α
  | .item a => some a
  | .stop => none

/-- What a queue holds, oldest first. -/
def items (q : Queue α) : List α :=
  q.elements.filterMap item?

/-- What is taken out stood in front of what is left. -/
theorem items_of_takeItems (limit : Nat) (elements : List (Queued α)) :
    elements.filterMap item? =
      (takeItems limit elements).1 ++ (takeItems limit elements).2.1.filterMap item? := by
  fun_induction takeItems limit elements with
  | case1 | case2 | case3 => rfl
  | case4 rest limit a items left ended htake ih =>
      rw [htake] at ih
      exact congrArg (a :: ·) ih

/-- If no end mark stands in the way, all elements are taken. -/
theorem takeItems_all {limit : Nat} {elements : List (Queued α)} (hlimit : elements.length ≤ limit)
    (hmark : (takeItems limit elements).2.2 = false) : (takeItems limit elements).2.1 = [] := by
  fun_induction takeItems limit elements with
  | case1 => rfl
  | case2 => exact absurd hlimit (Nat.not_succ_le_zero _)
  | case3 => cases hmark
  | case4 rest limit a items left ended htake ih =>
      rw [htake] at ih
      exact ih (Nat.le_of_succ_le_succ hlimit) hmark

/-- What is taken and what is left are the items of before. -/
theorem items_take (q : Queue α) (limit : Nat) :
    q.items = (q.take limit).2 ++ (q.take limit).1.items :=
  items_of_takeItems limit q.elements

/-- After the end was found nothing is read. -/
theorem read_of_ended {q : Queue α} (h : q.ended = true) : q.read = (q, []) := by
  rw [read, if_pos h]

/-- What an open queue gives to a read is taken out of it. -/
theorem read_eq_take {q : Queue α} (h : q.closed = false) : ∃ limit, q.read = q.take limit := by
  cases hended : q.ended with
  | true =>
      refine ⟨0, ?_⟩
      have hnothing : takeItems 0 q.elements = ([], q.elements, false) := by
        cases q.elements <;> rfl
      have hkept : q.take 0 = ({ q with ended := q.ended || false }, []) := by
        rw [take, hnothing]
      rw [read_of_ended hended, hkept, Bool.or_false]
  | false =>
      refine ⟨batchSize, ?_⟩
      rw [read, hended, h]
      rfl

/-- Taking items leaves no more elements than there were. -/
theorem length_takeItems_le (limit : Nat) (elements : List (Queued α)) :
    (takeItems limit elements).2.1.length ≤ elements.length := by
  fun_induction takeItems limit elements with
  | case1 | case2 => exact Nat.le_refl _
  | case3 => exact Nat.le_succ _
  | case4 rest limit a items left ended htake ih =>
      rw [htake] at ih
      exact Nat.le_succ_of_le ih

/-- What is taken out is not there any more. -/
theorem size_take_le (q : Queue α) (limit : Nat) : (q.take limit).1.size ≤ q.size :=
  length_takeItems_le limit q.elements

/-- Taking from a queue that is not empty makes it smaller. -/
theorem size_take_lt {q : Queue α} {limit : Nat} (hlimit : 0 < limit) (h : 0 < q.size) :
    (q.take limit).1.size < q.size := by
  obtain ⟨limit, rfl⟩ := Nat.exists_eq_succ_of_ne_zero (Nat.ne_of_gt hlimit)
  obtain ⟨element, rest, helements⟩ := List.exists_cons_of_length_pos h
  show (takeItems (limit + 1) q.elements).2.1.length < q.elements.length
  rw [helements]
  cases element with
  | stop => exact Nat.lt_succ_self _
  | item a => exact Nat.lt_succ_of_le (length_takeItems_le limit rest)

/-- What is drained and what is left are the items of before. -/
theorem items_drain (q : Queue α) : q.items = q.drain.2 ++ q.drain.1.items :=
  q.items_take q.size

/-- What is read and what is left are the items of before. -/
theorem items_read (q : Queue α) : q.items = q.read.2 ++ q.read.1.items := by
  unfold read
  split
  case isTrue => rfl
  case isFalse =>
    split
    case isTrue => rfl
    case isFalse => exact q.items_take batchSize

/-- A queue that is drained is empty, unless the end was found. -/
theorem drain_items (q : Queue α) (h : q.drain.1.ended = false) : q.drain.1.items = [] := by
  have hmark : (takeItems q.size q.elements).2.2 = false := (Bool.or_eq_false_iff.mp h).2
  have hrest : (takeItems q.size q.elements).2.1 = [] := takeItems_all (Nat.le_refl _) hmark
  exact congrArg (List.filterMap item?) hrest

/-- An accepted item stands behind the others. -/
theorem items_enqueue (q : Queue α) (a : α) :
    (q.enqueue a).1.items = q.items ++ if (q.enqueue a).2 = .accepted then [a] else [] := by
  unfold enqueue
  split
  case isTrue =>
    split
    case isTrue => exact (List.append_nil _).symm
    case isFalse => exact (List.append_nil _).symm
  case isFalse =>
    show (q.elements ++ [Queued.item a]).filterMap item? = _
    rw [List.filterMap_append]
    rfl

/-- Where there is room an item is put behind the others. -/
theorem enqueue_of_room {q : Queue α} (hroom : q.isFull = false) (a : α) :
    q.enqueue a = ({ q with elements := q.elements ++ [.item a] }, .accepted) := by
  rw [enqueue, if_neg (Bool.eq_false_iff.mp hroom)]

/-- Where there is none, and nothing is to be lost, the writer waits. -/
theorem enqueue_of_full {q : Queue α} (hfull : q.isFull = true) (hblocks : q.lossy = false)
    (a : α) :
    q.enqueue a = (q, .waits) := by
  rw [enqueue, if_pos hfull, if_neg (Bool.eq_false_iff.mp hblocks)]

/-- A queue that is not lossy keeps what it has room for. -/
theorem items_enqueue_of_blocking {q : Queue α} (hblocks : q.lossy = false) (a : α) :
    (q.enqueue a).1.items = q.items ++ if q.isFull then [] else [a] := by
  rw [items_enqueue, enqueue]
  cases q.isFull with
  | true =>
      rw [hblocks]
      rfl
  | false => rfl

/-- Nobody waits for a lossy queue. -/
theorem enqueue_ne_waits {q : Queue α} (hlossy : q.lossy = true) (a : α) :
    (q.enqueue a).2 ≠ .waits := by
  rw [enqueue, if_pos hlossy]
  intro hwaits
  cases hfull : q.isFull with
  | true =>
      rw [if_pos hfull] at hwaits
      cases hwaits
  | false =>
      rw [if_neg (Bool.eq_false_iff.mp hfull)] at hwaits
      cases hwaits

/-- To put an item in neither closes a queue nor changes its mode. -/
theorem enqueue_flags (q : Queue α) (a : α) :
    (q.enqueue a).1.closed = q.closed ∧ (q.enqueue a).1.lossy = q.lossy := by
  unfold enqueue
  split
  case isTrue => split <;> exact ⟨rfl, rfl⟩
  case isFalse => exact ⟨rfl, rfl⟩

/-- Nor does it end the reading. -/
theorem enqueue_ended (q : Queue α) (a : α) : (q.enqueue a).1.ended = q.ended := by
  unfold enqueue
  split
  case isTrue => split <;> rfl
  case isFalse => rfl

/-- A write never takes back what was counted. -/
theorem dropped_le_enqueue (q : Queue α) (a : α) : q.dropped ≤ (q.enqueue a).1.dropped := by
  unfold enqueue
  split
  case isTrue =>
    split
    case isTrue => exact Nat.le_succ _
    case isFalse => exact Nat.le_refl _
  case isFalse => exact Nat.le_refl _

/-- The end mark is no item. -/
theorem items_putStop (q : Queue α) : q.putStop.items = q.items := by
  unfold putStop
  split
  case isTrue => rfl
  case isFalse =>
    show (q.elements ++ [Queued.stop]).filterMap item? = _
    rw [List.filterMap_append]
    exact List.append_nil _

/-- An end mark that is put in has not been read. -/
theorem putStop_ended (q : Queue α) : q.putStop.ended = q.ended := by
  unfold putStop
  split <;> rfl

/-- An end mark does not change the mode. -/
theorem putStop_lossy (q : Queue α) : q.putStop.lossy = q.lossy := by
  unfold putStop
  split <;> rfl

/-- An end mark drops nothing. -/
theorem putStop_dropped (q : Queue α) : q.putStop.dropped = q.dropped := by
  unfold putStop
  split <;> rfl

/-- A queue whose end is not found by a read was not at its end before. -/
theorem ended_of_read {q : Queue α} (h : q.read.1.ended = false) : q.ended = false := by
  cases hended : q.ended with
  | false => rfl
  | true =>
      rw [read_of_ended hended] at h
      exact hended.symm.trans h

/-! ## Labelled items

What a queue or a buffer holds may be told apart by labels that nobody but the proof sees. -/

/-- An item that is taken out of a labelled list is taken out with its label. -/
theorem labelled_split {label item : Type} {labelled : List (label × item)} {a : item}
    {front back : List item} (h : labelled.map Prod.snd = front ++ a :: back) :
    ∃ before l behind, labelled = before ++ (l, a) :: behind ∧
      (before ++ behind).Sublist labelled ∧ before.map Prod.snd = front ∧
      front ++ back = (before ++ behind).map Prod.snd := by
  obtain ⟨before, rest, rfl, hbefore, hrest⟩ := List.map_eq_append_iff.mp h
  obtain ⟨⟨l, _⟩, behind, rfl, rfl, hbehind⟩ := List.map_eq_cons_iff.mp hrest
  refine ⟨before, l, behind, rfl, ?_, hbefore, ?_⟩
  · exact (List.sublist_cons_self _ behind).append_left before
  · rw [List.map_append, hbefore, hbehind]

/-- Items that are read are read with the first labels. -/
theorem labelled_append {label item : Type} {labelled : List (label × item)}
    {front back : List item} (h : labelled.map Prod.snd = front ++ back) :
    (labelled.take front.length).map Prod.snd = front ∧
      (labelled.drop front.length).map Prod.snd = back := by
  rw [List.map_take, List.map_drop, h]
  exact ⟨List.take_left' rfl, List.drop_left' rfl⟩

end Queue

end GroundLink
