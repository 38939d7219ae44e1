import GroundLink.Proofs.Trace
import Mathlib.Algebra.Order.BigOperators.Group.List
import Mathlib.Algebra.Order.Ring.Nat
import Mathlib.Data.List.Sort

/-!
# Run times of tasks

`runTime` is how long the slices of one task took together, and `tally` is the entry that a task has
in the totals, if it ran. Read `totals_conserve_time` first: the totals are the tallies of the tasks
in the order of their ids, and together with the gaps between slices they make up the span of the
trace, up to turns of the clock.

`Collects` carries the totals: what is found while the slices are gone through is the tallies of the
tasks seen, in the order in which they are seen, and `Collects.mergeSort_eq` says what becomes of
it. `span_eq` carries the span, by induction on the slices from the first one on.
-/

namespace GroundLink

namespace Trace

/-- How long the slices of a task took together. -/
def runTime (slices : List Slice) (id : Fin 32) : Nat :=
  ((slices.filter (·.taskId = id)).map (·.duration.toNat)).sum

/-- The name and the run time of a task, if it has a slice. -/
def tally (slices : List Slice) (id : Fin 32) : Option (String × Nat) :=
  (slices.find? (·.taskId = id)).map fun first => (first.task, runTime slices id)

/-- The times between the end of a slice and the start of the next one. -/
def gaps : List Slice → List UInt32
  | first :: second :: rest => (second.start - first.stop) :: gaps (second :: rest)
  | _ => []

/-- The tallies of all tasks that ran, each behind the id of its task, in the order of ids. -/
def tallies (slices : List Slice) : List (Fin 32 × String × Nat) :=
  (List.finRange 32).filterMap fun id => (tally slices id).map (id, ·)

/-- Totals, in whatever order, are those of the tasks that ran. -/
structure Collects (slices : List Slice) (found : List (Fin 32 × String × Nat)) : Prop where
  distinct : (found.map Prod.fst).Nodup
  mem_iff : ∀ id total, (id, total) ∈ found ↔ tally slices id = some total

variable {slices : List Slice} {slice : Slice} {id : Fin 32} {found : List (Fin 32 × String × Nat)}

/-! ## Totals -/

/-- One more slice adds its duration to the task that it is of. -/
theorem runTime_concat (slices : List Slice) (slice : Slice) (id : Fin 32) :
    runTime (slices ++ [slice]) id =
      runTime slices id + if slice.taskId = id then slice.duration.toNat else 0 := by
  rw [runTime, runTime, List.filter_append, List.map_append, List.sum_append]
  by_cases h : slice.taskId = id <;> simp [h]

/-- A slice of another task does not change a tally. -/
theorem tally_concat_of_ne (h : slice.taskId ≠ id) :
    tally (slices ++ [slice]) id = tally slices id := by
  rw [tally, tally, runTime_concat, if_neg h, Nat.add_zero, List.find?_append]
  simp [h]

/-- A slice of a task that has run is added to its run time. -/
theorem tally_concat_of_some {name : String} {time : Nat}
    (h : tally slices slice.taskId = some (name, time)) :
    tally (slices ++ [slice]) slice.taskId = some (name, time + slice.duration.toNat) := by
  obtain ⟨first, hfirst, hentry⟩ := Option.map_eq_some_iff.mp h
  obtain ⟨rfl, rfl⟩ := Prod.mk.inj hentry
  rw [tally, List.find?_append, hfirst, runTime_concat, if_pos rfl]
  rfl

/-- The first slice of a task names it. -/
theorem tally_concat_of_none (h : tally slices slice.taskId = none) :
    tally (slices ++ [slice]) slice.taskId = some (slice.task, slice.duration.toNat) := by
  have hnone := Option.map_eq_none_iff.mp h
  have htime : runTime slices slice.taskId = 0 := by
    rw [runTime, List.filter_eq_nil_iff.mpr (List.find?_eq_none.mp hnone)]
    rfl
  rw [tally, List.find?_append, hnone, runTime_concat, htime, if_pos rfl, Nat.zero_add]
  simp

/-- The totals of other tasks are passed over. -/
theorem addTotal_append {before : List (Fin 32 × String × Nat)}
    (h : slice.taskId ∉ before.map Prod.fst) (rest : List (Fin 32 × String × Nat)) :
    addTotal slice (before ++ rest) = before ++ addTotal slice rest := by
  induction before with
  | nil => rfl
  | cons entry before ih =>
      rw [List.map_cons, List.mem_cons, not_or] at h
      rw [List.cons_append, addTotal, if_neg (Ne.symm h.1), ih h.2, List.cons_append]

namespace Collects

/-- A task that has not been seen has no total. -/
theorem not_mem (h : Collects slices found) (hnone : tally slices id = none) :
    id ∉ found.map Prod.fst := by
  intro hmem
  obtain ⟨⟨other, total⟩, hentry, rfl⟩ := List.mem_map.mp hmem
  cases ((h.mem_iff other total).mp hentry).symm.trans hnone

/-- The first slice of a task gives it a total behind the others. -/
theorem addTotal_of_none (h : Collects slices found) (hnone : tally slices slice.taskId = none) :
    Collects (slices ++ [slice]) (addTotal slice found) := by
  have hnew := h.not_mem hnone
  have hlast : addTotal slice found =
      found ++ [(slice.taskId, slice.task, slice.duration.toNat)] := by
    have hall := addTotal_append hnew []
    rwa [List.append_nil] at hall
  rw [hlast]
  refine ⟨?_, fun id total => ?_⟩
  · rw [List.map_append, List.map_singleton]
    exact List.nodup_append'.mpr ⟨h.distinct, List.nodup_singleton _, by simpa using hnew⟩
  · rw [List.mem_append, List.mem_singleton, h.mem_iff, Prod.mk.injEq]
    by_cases hid : id = slice.taskId
    · rw [hid, hnone, tally_concat_of_none hnone]
      simp [eq_comm]
    · rw [tally_concat_of_ne (Ne.symm hid)]
      simp [hid]

/-- A further slice of a task is added to its total. -/
theorem addTotal_of_some {name : String} {time : Nat} (h : Collects slices found)
    (hsome : tally slices slice.taskId = some (name, time)) :
    Collects (slices ++ [slice]) (addTotal slice found) := by
  obtain ⟨before, after, rfl⟩ := List.append_of_mem ((h.mem_iff _ _).mpr hsome)
  have hdistinct := h.distinct
  rw [List.map_append, List.map_cons] at hdistinct
  have hother := (List.nodup_cons.mp (List.nodup_middle.mp hdistinct)).1
  rw [List.mem_append, not_or] at hother
  rw [addTotal_append hother.1, Trace.addTotal, if_pos rfl]
  refine ⟨?_, fun id total => ?_⟩
  · rw [List.map_append, List.map_cons]
    exact hdistinct
  · have hold := h.mem_iff id total
    rw [List.mem_append, List.mem_cons, Prod.mk.injEq] at hold ⊢
    by_cases hid : id = slice.taskId
    · subst hid
      have hbefore : (slice.taskId, total) ∉ before := fun hmem =>
        hother.1 (List.mem_map.mpr ⟨_, hmem, rfl⟩)
      have hafter : (slice.taskId, total) ∉ after := fun hmem =>
        hother.2 (List.mem_map.mpr ⟨_, hmem, rfl⟩)
      rw [tally_concat_of_some hsome]
      simp [hbefore, hafter, eq_comm]
    · rw [tally_concat_of_ne (Ne.symm hid), ← hold]
      simp [hid]

/-- Every slice leaves the totals of the tasks that ran. -/
theorem addTotal (h : Collects slices found) (slice : Slice) :
    Collects (slices ++ [slice]) (addTotal slice found) := by
  cases htally : tally slices slice.taskId with
  | none => exact h.addTotal_of_none htally
  | some total => exact h.addTotal_of_some htally

end Collects

/-- What is found when all slices are gone through. -/
theorem collects_foldl (slices : List Slice) :
    Collects slices (slices.foldl (fun acc slice => addTotal slice acc) []) := by
  induction slices using List.reverseRecOn with
  | nil => exact ⟨List.nodup_nil, fun id total => ⟨nofun, nofun⟩⟩
  | append_singleton slices slice ih =>
      rw [List.foldl_append]
      exact ih.addTotal slice

/-- The tallies are those of the tasks that ran. -/
theorem mem_tallies {total : String × Nat} :
    (id, total) ∈ tallies slices ↔ tally slices id = some total := by
  rw [tallies, List.mem_filterMap]
  constructor
  · rintro ⟨other, -, hother⟩
    obtain ⟨total, htally, heq⟩ := Option.map_eq_some_iff.mp hother
    obtain ⟨rfl, rfl⟩ := Prod.mk.inj heq
    exact htally
  · intro htally
    exact ⟨id, List.mem_finRange id, by rw [htally]; rfl⟩

/-- The tallies stand in the order of ids, one for each. -/
theorem pairwise_tallies (slices : List Slice) :
    (tallies slices).Pairwise fun first second => first.1 < second.1 := by
  rw [tallies, List.pairwise_filterMap]
  refine (List.pairwise_lt_finRange 32).imp fun {low high} hlt first hfirst second hsecond => ?_
  obtain ⟨_, -, rfl⟩ := Option.map_eq_some_iff.mp hfirst
  obtain ⟨_, -, rfl⟩ := Option.map_eq_some_iff.mp hsecond
  exact hlt

/-- In the order of ids the totals are the tallies. -/
theorem Collects.mergeSort_eq (h : Collects slices found) :
    (found.mergeSort fun first second => first.1 ≤ second.1) = tallies slices := by
  have htallies := pairwise_tallies slices
  have hsame : found.Perm (tallies slices) := by
    have hnodup : (tallies slices).Nodup := htallies.imp fun hlt heq => (heq ▸ hlt).ne rfl
    refine (List.perm_ext_iff_of_nodup h.distinct.of_map hnodup).mpr fun ⟨id, total⟩ => ?_
    rw [h.mem_iff, mem_tallies]
  have hsorted := List.pairwise_mergeSort' (fun first second => first.1 ≤ second.1) found
  have hperm := List.mergeSort_perm found fun first second => first.1 ≤ second.1
  -- two totals of one id are the same, so the order of ids leaves no choice
  refine (hperm.trans hsame).eq_of_pairwise (fun first second hfirst hsecond hle hge => ?_) hsorted
    (htallies.imp le_of_lt)
  exact List.inj_on_of_nodup_map h.distinct (hperm.mem_iff.mp hfirst) (hsame.mem_iff.mpr hsecond)
    (le_antisymm hle hge)

/-- The totals are the tallies of the tasks, in the order of ids. -/
theorem totals_eq (trace : Trace) :
    trace.totals = (List.finRange 32).filterMap (tally trace.slices) := by
  rw [totals, (collects_foldl trace.slices).mergeSort_eq, tallies, List.map_filterMap]
  refine List.filterMap_congr fun id _ => ?_
  rw [Option.map_map]
  exact Option.map_id'

/-- Adding a slice adds its duration to the sum of the totals. -/
theorem sum_addTotal (slice : Slice) (totals : List (Fin 32 × String × Nat)) :
    ((addTotal slice totals).map (·.2.2)).sum =
      slice.duration.toNat + (totals.map (·.2.2)).sum := by
  induction totals with
  | nil => rfl
  | cons entry rest ih =>
      obtain ⟨id, task, total⟩ := entry
      rw [addTotal]
      split
      · simp only [List.map_cons, List.sum_cons]
        omega
      · simp only [List.map_cons, List.sum_cons, ih]
        omega

/-- The totals add up to the durations of all slices. -/
theorem sum_totals (trace : Trace) :
    (trace.totals.map Prod.snd).sum = (trace.slices.map (·.duration.toNat)).sum := by
  have hfold (slices : List Slice) (acc : List (Fin 32 × String × Nat)) :
      ((slices.foldl (fun acc slice => addTotal slice acc) acc).map (·.2.2)).sum =
        (acc.map (·.2.2)).sum + (slices.map (·.duration.toNat)).sum := by
    induction slices generalizing acc with
    | nil => rfl
    | cons slice rest ih =>
        rw [List.foldl_cons, ih, sum_addTotal, List.map_cons, List.sum_cons]
        omega
  rw [totals, List.map_map]
  exact ((List.mergeSort_perm _ _).map _).sum_eq.trans
    ((hfold trace.slices []).trans (Nat.zero_add _))

/-! ## Span -/

/-- The durations of some slices and the gaps between them, as numbers. -/
def elapsed (slices : List Slice) : Nat :=
  (slices.map (·.duration.toNat)).sum + ((gaps slices).map (·.toNat)).sum

/-- The first slice and the gap behind it come before the rest. -/
theorem elapsed_cons (first second : Slice) (rest : List Slice) :
    elapsed (first :: second :: rest) =
      first.duration.toNat + (second.start - first.stop).toNat + elapsed (second :: rest) := by
  simp only [elapsed, gaps, List.map_cons, List.sum_cons]
  omega

/-- From the start of one slice to the end of the last one the clock goes on by the durations and
the gaps, up to turns of the clock. -/
theorem elapsed_mod (first : Slice) (rest : List Slice) :
    elapsed (first :: rest) % 2 ^ 32 = ((rest.getLastD first).stop - first.start).toNat := by
  induction rest generalizing first with
  | nil =>
      show ((first.stop - first.start).toNat + 0 + 0) % 2 ^ 32 = (first.stop - first.start).toNat
      exact Nat.mod_eq_of_lt (UInt32.toNat_lt _)
  | cons second rest ih =>
      have hrest := ih second
      have hlast : (second :: rest).getLastD first = rest.getLastD second := List.getLastD_cons ..
      rw [elapsed_cons, hlast, Slice.duration]
      generalize (rest.getLastD second).stop = last at hrest ⊢
      rw [UInt32.toNat_sub] at hrest ⊢
      rw [UInt32.toNat_sub, UInt32.toNat_sub]
      have h1 := first.start.toNat_lt
      have h2 := first.stop.toNat_lt
      have h3 := second.start.toNat_lt
      have h4 := last.toNat_lt
      omega

/-- The span is all that elapsed, as a word. -/
theorem span_eq (trace : Trace) : trace.span.toNat = elapsed trace.slices % 2 ^ 32 := by
  unfold span
  cases trace.slices with
  | nil => rfl
  | cons first rest =>
      rw [elapsed_mod, List.head?_cons, List.getLast?_cons, List.getLastD_eq_getLast?]

/-! ## The whole -/

/-- A slice of accepted events bears the name and the id of a task. -/
theorem exists_task {tasks : Tasks} {events : List TraceEvent} {trace : Trace}
    (h : ofEvents tasks events = .ok trace) (hslice : slice ∈ trace.slices) :
    ∃ task ∈ tasks.entries, task.id = slice.taskId ∧ task.name = slice.task := by
  obtain ⟨-, rfl⟩ := ofEvents_eq_ok_iff.mp h
  obtain ⟨number, -, hnumber⟩ := List.mem_filterMap.mp hslice
  simp only [slice?, Option.bind_eq_bind, Option.bind_eq_some_iff] at hnumber
  obtain ⟨first, -, second, -, task, htask, hsame⟩ := hnumber
  obtain rfl := Option.some.inj hsame
  exact ⟨task, (TraceEvent.task?_eq_some_iff.mp htask).1, rfl, rfl⟩

/-- What is found for some items stands in their order. -/
theorem forall₂_filterMap {α β : Type} (f : α → Option β) (items : List α) :
    List.Forall₂ (fun item result => f item = some result)
      (items.filter fun item => (f item).isSome)
      (items.filterMap f) := by
  induction items with
  | nil => exact .nil
  | cons item rest ih =>
      cases hitem : f item with
      | none => simpa [hitem] using ih
      | some result => simpa [hitem] using ih

/-- A task has a tally if it has a slice. -/
theorem isSome_tally : (tally slices id).isSome = true ↔ ∃ slice ∈ slices, slice.taskId = id := by
  rw [tally, Option.isSome_map, List.find?_isSome]
  simp only [decide_eq_true_eq]

/-- A task's run time is part of the time of all slices. -/
theorem le_sum_totals {trace : Trace} {entry : String × Nat} (h : entry ∈ trace.totals) :
    entry.2 ≤ (trace.slices.map (·.duration.toNat)).sum := by
  rw [← sum_totals]
  exact List.le_sum_of_mem (List.mem_map_of_mem h)

/-- No slice takes longer than a word can say. -/
theorem sum_durations_le (slices : List Slice) :
    (slices.map (·.duration.toNat)).sum ≤ slices.length * (2 ^ 32 - 1) := by
  have hle : ∀ time ∈ slices.map (·.duration.toNat), time ≤ 2 ^ 32 - 1 := by
    intro time htime
    obtain ⟨slice, -, rfl⟩ := List.mem_map.mp htime
    exact Nat.le_pred_of_lt slice.duration.toNat_lt
  have hsum := List.sum_le_card_nsmul _ _ hle
  rwa [List.length_map, nsmul_eq_mul, Nat.cast_id] at hsum

/-- Every task that has a slice has one entry in the totals, in the order of ids, with the sum of
the durations of its slices. The totals add up to the durations of all slices, and no sum leaves 64
bits as long as there are no more than `2 ^ 32` slices. Durations and gaps make up the span, up to
turns of the clock; so if they come to less than one turn, the totals are within the span. -/
theorem totals_conserve_time {tasks : Tasks} {events : List TraceEvent} {trace : Trace}
    (h : ofEvents tasks events = .ok trace) :
    (∃ ids : List (Fin 32), ids.Pairwise (· < ·) ∧
      (∀ id, id ∈ ids ↔ ∃ slice ∈ trace.slices, slice.taskId = id) ∧
      List.Forall₂ (fun id entry => ∃ task ∈ tasks.entries,
        task.id = id ∧ entry = (task.name, runTime trace.slices id)) ids trace.totals) ∧
    (trace.totals.map Prod.snd).sum = (trace.slices.map (·.duration.toNat)).sum ∧
    (trace.slices.length ≤ 2 ^ 32 → ∀ entry ∈ trace.totals, entry.2 < 2 ^ 64) ∧
    trace.span.toNat = elapsed trace.slices % 2 ^ 32 ∧
    (elapsed trace.slices < 2 ^ 32 →
      (trace.totals.map Prod.snd).sum ≤ trace.span.toNat) := by
  refine ⟨
    ⟨(List.finRange 32).filter fun id => (tally trace.slices id).isSome, ?_, fun id => ?_, ?_⟩,
    sum_totals trace, fun hlength entry hentry => ?_, span_eq trace, fun hturn => ?_⟩
  · exact (List.pairwise_lt_finRange 32).filter _
  · rw [List.mem_filter, isSome_tally]
    exact and_iff_right (List.mem_finRange id)
  · rw [totals_eq]
    refine (forall₂_filterMap _ _).imp fun id entry htally => ?_
    obtain ⟨first, hfirst, rfl⟩ := Option.map_eq_some_iff.mp htally
    obtain ⟨task, htask, hid, hname⟩ := exists_task h (List.mem_of_find?_eq_some hfirst)
    have hsame : first.taskId = id := by simpa using List.find?_some hfirst
    exact ⟨task, htask, hid.trans hsame, by rw [hname]⟩
  · have hle := le_sum_totals hentry
    have hsum := sum_durations_le trace.slices
    omega
  · rw [sum_totals, span_eq, Nat.mod_eq_of_lt hturn]
    exact Nat.le_add_right _ _

/-- A trace of three slices, in the first of which the clock turns. -/
theorem totals_conserve_time_at_turn :
    ∃ tasks events trace, ofEvents tasks events = .ok trace ∧
      trace.slices.map (·.duration) = [11, 10, 10] ∧ gaps trace.slices = [5, 0] ∧
      trace.totals = [("idle", 10), ("comms", 21)] ∧ trace.span = 36 ∧
      (trace.totals.map Prod.snd).sum ≤ trace.span.toNat := by
  let idle : TaskSpec := ⟨"idle", 0, 256, 0, by decide⟩
  let comms : TaskSpec := ⟨"comms", 4, 1024, 3, by decide⟩
  let events : List TraceEvent :=
    [⟨.switchIn, 4, 4294967290⟩, ⟨.switchOut, 4, 5⟩, ⟨.switchIn, 0, 10⟩, ⟨.switchOut, 0, 20⟩,
      ⟨.switchIn, 4, 20⟩, ⟨.switchOut, 4, 30⟩]
  let trace : Trace := ⟨[⟨"comms", 4, 4294967290, 5⟩, ⟨"idle", 0, 10, 20⟩, ⟨"comms", 4, 20, 30⟩]⟩
  have hspecs : [comms, idle].Pairwise Compatible := by decide
  obtain ⟨tasks, hbuilt⟩ := (tasks_look_up.accepts _).mpr hspecs
  have hrun : (Tasks.ofList [comms, idle]).toOption.map (ofEvents · events) = some (.ok trace) := by
    decide +kernel
  have hpaired : ofEvents tasks events = .ok trace := by
    rw [hbuilt] at hrun
    exact Option.some.inj hrun
  have htotals : trace.totals = [("idle", 10), ("comms", 21)] := by
    rw [totals_eq]
    rfl
  obtain ⟨-, -, -, -, hwithin⟩ := totals_conserve_time hpaired
  exact ⟨tasks, events, trace, hpaired, rfl, rfl, htotals, rfl, hwithin (by decide)⟩

end Trace

end GroundLink
