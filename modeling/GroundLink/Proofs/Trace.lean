import GroundLink.Proofs.Bytes
import GroundLink.Proofs.Registry
import GroundLink.Trace

/-!
# Which traces can be paired

An event of a trace `Fits` what stands before it if it switches a task in at an even place, and at
an odd place switches out the task of the event before it. `Faulty` says what is wrong with an event
that does not fit. Read these two first: `reads_regular_traces` says that a trace is paired if every
event fits, and is refused for the first one that does not.

`pairFrom_append` carries the proof. It says what the loop has made, and what it holds, after some
events that fit. Records are read by `decodeAll_eq_ok_iff`: there is one byte string for each list
of events, and no other is accepted.
-/

namespace GroundLink

/-- The task of an event. -/
def TraceEvent.task? (tasks : Tasks) (event : TraceEvent) : Option TaskSpec :=
  tasks.find? (.id event.taskId.toUInt32)

/-- The task of an event is the entry with its id. -/
theorem TraceEvent.task?_eq_some_iff {tasks : Tasks} {event : TraceEvent} {task : TaskSpec} :
    event.task? tasks = some task ↔
      task ∈ tasks.entries ∧ task.id.val = event.taskId.toNat := by
  rw [TraceEvent.task?, Tasks.find?_eq_some_iff, Key.Names, UInt8.toNat_toUInt32]
  exact Iff.rfl

namespace Trace

/-! ## Regular traces -/

/-- Whether an event may stand behind others. -/
def Fits (tasks : Tasks) (before : List TraceEvent) (event : TraceEvent) : Prop :=
  (∃ task, event.task? tasks = some task) ∧
    if before.length % 2 = 0 then event.switch = .switchIn
    else event.switch = .switchOut ∧
      ∃ last, before.getLast? = some last ∧ last.taskId = event.taskId

/-- Whether every event may stand behind those before it. -/
def Regular (tasks : Tasks) (events : List TraceEvent) : Prop :=
  ∀ before event after, events = before ++ event :: after → Fits tasks before event

/-- What is wrong with an event behind others. That its task is unknown goes first. -/
inductive Faulty (tasks : Tasks) (before : List TraceEvent) (event : TraceEvent) :
    TraceError → Prop
  | unknownTask (htask : event.task? tasks = none) :
      Faulty tasks before event (.unknownTask before.length event.taskId)
  | notRunning {task : TaskSpec} (htask : event.task? tasks = some task)
      (hplace : before.length % 2 = 0) (hswitch : event.switch = .switchOut) :
      Faulty tasks before event (.notRunning before.length task.name)
  | alreadyRunning {task running : TaskSpec} {last : TraceEvent}
      (htask : event.task? tasks = some task) (hplace : before.length % 2 = 1)
      (hswitch : event.switch = .switchIn) (hlast : before.getLast? = some last)
      (hrunning : last.task? tasks = some running) :
      Faulty tasks before event (.alreadyRunning before.length task.name running.name)
  | mismatch {task running : TaskSpec} {last : TraceEvent}
      (htask : event.task? tasks = some task) (hplace : before.length % 2 = 1)
      (hswitch : event.switch = .switchOut) (hlast : before.getLast? = some last)
      (hrunning : last.task? tasks = some running) (hother : last.taskId ≠ event.taskId) :
      Faulty tasks before event (.mismatch before.length task.name running.name)

/-- What is wrong with the first event that does not fit. -/
def FirstFault (tasks : Tasks) (events : List TraceEvent) (error : TraceError) : Prop :=
  ∃ before event after, events = before ++ event :: after ∧ Regular tasks before ∧
    Faulty tasks before event error

variable {tasks : Tasks} {before events : List TraceEvent} {event : TraceEvent}
  {error : TraceError}

/-- Without events there is nothing to be at fault. -/
theorem regular_nil : Regular tasks [] := by
  intro before event after h
  cases before <;> cases h

/-- Events are regular if those before the last one are, and the last one fits them. -/
theorem regular_concat : Regular tasks (before ++ [event]) ↔
    Regular tasks before ∧ Fits tasks before event := by
  constructor
  · intro h
    refine ⟨fun earlier other after hsplit => ?_, h before event [] rfl⟩
    exact h earlier other (after ++ [event]) (by rw [hsplit]; simp)
  · rintro ⟨hbefore, hevent⟩ earlier other after hsplit
    rcases List.eq_nil_or_concat after with rfl | ⟨rest, last, rfl⟩
    · obtain ⟨rfl, hlast⟩ := List.append_inj' hsplit rfl
      rw [← List.singleton_inj.mp hlast]
      exact hevent
    · rw [List.concat_eq_append, ← List.cons_append, ← List.append_assoc] at hsplit
      exact hbefore earlier other rest (List.append_inj' hsplit rfl).1

/-- Each of some regular events fits those before it. -/
theorem Regular.fits (h : Regular tasks events) {i : Nat} (hevent : events[i]? = some event) :
    Fits tasks (events.take i) event := by
  obtain ⟨hlt, rfl⟩ := List.getElem?_eq_some_iff.mp hevent
  refine h _ _ (events.drop (i + 1)) ?_
  rw [← List.drop_eq_getElem_cons hlt, List.take_append_drop]

/-- The tasks of events with the same id are the same. -/
theorem task?_congr {first second : TraceEvent} (h : first.taskId = second.taskId) :
    first.task? tasks = second.task? tasks := by
  rw [TraceEvent.task?, TraceEvent.task?, h]

/-- An event fits behind events that fit, unless something is wrong with it. -/
theorem Regular.fits_or_faulty (h : Regular tasks before) (event : TraceEvent) :
    Fits tasks before event ∨ ∃ error, Faulty tasks before event error := by
  cases htask : event.task? tasks with
  | none => exact .inr ⟨_, .unknownTask htask⟩
  | some task =>
      rcases Nat.mod_two_eq_zero_or_one before.length with hplace | hplace
      · cases hswitch : event.switch with
        | switchIn => exact .inl ⟨⟨task, htask⟩, by rw [if_pos hplace]; exact hswitch⟩
        | switchOut => exact .inr ⟨_, .notRunning htask hplace hswitch⟩
      · have hodd : ¬before.length % 2 = 0 := by omega
        obtain ⟨earlier, last, rfl⟩ : ∃ earlier last, before = earlier ++ [last] := by
          rcases List.eq_nil_or_concat before with rfl | ⟨earlier, last, hconcat⟩
          · exact absurd rfl hodd
          · exact ⟨earlier, last, hconcat.trans List.concat_eq_append⟩
        have hlast : (earlier ++ [last]).getLast? = some last := List.getLast?_concat
        obtain ⟨running, hrunning⟩ := (regular_concat.mp h).2.1
        cases hswitch : event.switch with
        | switchIn => exact .inr ⟨_, .alreadyRunning htask hplace hswitch hlast hrunning⟩
        | switchOut =>
            by_cases hsame : last.taskId = event.taskId
            · refine .inl ⟨⟨task, htask⟩, ?_⟩
              rw [if_neg hodd]
              exact ⟨hswitch, last, hlast, hsame⟩
            · exact .inr ⟨_, .mismatch htask hplace hswitch hlast hrunning hsame⟩

/-- Events are regular, or one of them is the first that does not fit. -/
theorem regular_or_first_fault (tasks : Tasks) (events : List TraceEvent) :
    Regular tasks events ∨ ∃ error, FirstFault tasks events error := by
  refine good_or_first_bad regular_nil (fun before event hbefore => ?_) events
  exact (hbefore.fits_or_faulty event).imp_left fun hevent => regular_concat.mpr ⟨hbefore, hevent⟩

/-! ## Slices -/

/-- The slice between two events, the first of which stands at twice the number. -/
def slice? (tasks : Tasks) (events : List TraceEvent) (number : Nat) : Option Slice := do
  let first ← events[2 * number]?
  let second ← events[2 * number + 1]?
  let task ← first.task? tasks
  pure ⟨task.name, task.id, first.time, second.time⟩

/-- The slices of events, two by two. -/
def slicesOf (tasks : Tasks) (events : List TraceEvent) : List Slice :=
  (List.range (events.length / 2)).filterMap (slice? tasks events)

/-- The task that runs after some events, and since when. -/
def runningAfter (tasks : Tasks) (events : List TraceEvent) : Option (TaskSpec × UInt32) :=
  if events.length % 2 = 0 then none
  else do
    let last ← events.getLast?
    let task ← last.task? tasks
    pure (task, last.time)

/-- Two events in a row, of which the first is of a known task, are a slice of that task. -/
theorem slice?_of_pair {number : Nat} {first second : TraceEvent} {task : TaskSpec}
    (hfirst : events[2 * number]? = some first) (hsecond : events[2 * number + 1]? = some second)
    (htask : first.task? tasks = some task) :
    slice? tasks events number = some ⟨task.name, task.id, first.time, second.time⟩ := by
  simp only [slice?, hfirst, hsecond, htask, Option.bind_eq_bind, Option.bind_some, Option.pure_def]

/-- A slice does not depend on what comes behind it. -/
theorem slice?_concat {number : Nat} (h : number < before.length / 2) (event : TraceEvent) :
    slice? tasks (before ++ [event]) number = slice? tasks before number := by
  have hfirst : 2 * number < before.length := by omega
  have hsecond : 2 * number + 1 < before.length := by omega
  rw [slice?, slice?, List.getElem?_append_left hfirst, List.getElem?_append_left hsecond]

/-- The pairs that are complete stay what they are when an event is added. -/
theorem filterMap_slice?_concat (event : TraceEvent) :
    (List.range (before.length / 2)).filterMap (slice? tasks (before ++ [event])) =
      slicesOf tasks before :=
  List.filterMap_congr fun _ hnumber => slice?_concat (List.mem_range.mp hnumber) event

/-- An event behind complete pairs makes no slice yet. -/
theorem slicesOf_concat_even (h : before.length % 2 = 0) (event : TraceEvent) :
    slicesOf tasks (before ++ [event]) = slicesOf tasks before := by
  have hlength : (before ++ [event]).length / 2 = before.length / 2 := by
    rw [List.length_append, List.length_singleton]
    omega
  rw [slicesOf, hlength, filterMap_slice?_concat]

/-- An event behind a task that is running ends its slice. -/
theorem slicesOf_concat_odd (h : before.length % 2 = 1) {last : TraceEvent} {task : TaskSpec}
    (hlast : before.getLast? = some last) (htask : last.task? tasks = some task)
    (event : TraceEvent) : slicesOf tasks (before ++ [event]) =
      slicesOf tasks before ++ [⟨task.name, task.id, last.time, event.time⟩] := by
  have hlength : (before ++ [event]).length / 2 = before.length / 2 + 1 := by
    rw [List.length_append, List.length_singleton]
    omega
  have hfirst : (before ++ [event])[2 * (before.length / 2)]? = some last := by
    rw [List.getLast?_eq_getElem?] at hlast
    rw [List.getElem?_append_left (by omega), ← hlast]
    congr 1
    omega
  have hsecond : (before ++ [event])[2 * (before.length / 2) + 1]? = some event := by
    rw [show 2 * (before.length / 2) + 1 = before.length by omega, List.getElem?_concat_length]
  have hslice := slice?_of_pair hfirst hsecond htask
  rw [slicesOf, hlength, List.range_succ, List.filterMap_append, filterMap_slice?_concat]
  simp only [List.filterMap_cons, List.filterMap_nil, hslice]

/-! ## The loop -/

/-- Behind complete pairs no task is running. -/
theorem runningAfter_even (h : before.length % 2 = 0) : runningAfter tasks before = none :=
  if_pos h

/-- Behind an odd number of events the task of the last one is running, since its time. -/
theorem runningAfter_odd (h : before.length % 2 = 1) {last : TraceEvent} {task : TaskSpec}
    (hlast : before.getLast? = some last) (htask : last.task? tasks = some task) :
    runningAfter tasks before = some (task, last.time) := by
  rw [runningAfter, if_neg (by omega), hlast, Option.bind_eq_bind, Option.bind_some, htask]
  rfl

/-- An event that fits moves what the loop has made and what it holds on by one event. -/
theorem pairFrom_fits (h : Fits tasks before event) (rest : List TraceEvent) :
    (pairFrom tasks before.length (runningAfter tasks before) (event :: rest)).map
        (slicesOf tasks before ++ ·) =
      (pairFrom tasks (before ++ [event]).length (runningAfter tasks (before ++ [event])) rest).map
        (slicesOf tasks (before ++ [event]) ++ ·) := by
  obtain ⟨⟨task, htask⟩, hplace⟩ := h
  have hlength : (before ++ [event]).length = before.length + 1 := List.length_append
  have hfind : tasks.find? (.id event.taskId.toUInt32) = some task := htask
  rcases Nat.mod_two_eq_zero_or_one before.length with heven | hodd
  · rw [if_pos heven] at hplace
    have hnext : runningAfter tasks (before ++ [event]) = some (task, event.time) :=
      runningAfter_odd (by omega) List.getLast?_concat htask
    rw [runningAfter_even heven, hnext, slicesOf_concat_even heven, hlength, pairFrom]
    simp only [hfind, hplace]
  · rw [if_neg (by omega)] at hplace
    obtain ⟨hswitch, last, hlast, hsame⟩ := hplace
    have hrunning : last.task? tasks = some task := (task?_congr hsame).trans htask
    have hnext : runningAfter tasks (before ++ [event]) = none := runningAfter_even (by omega)
    rw [runningAfter_odd hodd hlast hrunning, hnext, slicesOf_concat_odd hodd hlast hrunning,
      hlength, pairFrom]
    simp only [hfind, hswitch, if_true]
    cases pairFrom tasks (before.length + 1) none rest with
    | error e => rfl
    | ok slices => exact congrArg Except.ok (List.append_assoc _ [_] slices).symm

/-- After events that fit, the loop has made their slices, and goes on behind them. -/
theorem pairFrom_append (h : Regular tasks before) (rest : List TraceEvent) :
    pairFrom tasks 0 none (before ++ rest) =
      (pairFrom tasks before.length (runningAfter tasks before) rest).map
        (slicesOf tasks before ++ ·) := by
  induction before using List.reverseRecOn generalizing rest with
  | nil =>
      change pairFrom tasks 0 none rest = (pairFrom tasks 0 none rest).map ([] ++ ·)
      cases pairFrom tasks 0 none rest <;> rfl
  | append_singleton before event ih =>
      obtain ⟨hbefore, hevent⟩ := regular_concat.mp h
      rw [List.append_assoc, List.singleton_append, ih hbefore, pairFrom_fits hevent]

/-- At an event that does not fit the loop stops and says what is wrong. -/
theorem pairFrom_faulty (h : Faulty tasks before event error) (rest : List TraceEvent) :
    pairFrom tasks before.length (runningAfter tasks before) (event :: rest) = .error error := by
  cases h with
  | unknownTask htask =>
      have hfind : tasks.find? (.id event.taskId.toUInt32) = none := htask
      rw [pairFrom, hfind]
  | @notRunning task htask hplace hswitch =>
      have hfind : tasks.find? (.id event.taskId.toUInt32) = some task := htask
      rw [runningAfter_even hplace, pairFrom]
      simp only [hfind, hswitch]
  | @alreadyRunning task running last htask hplace hswitch hlast hrunning =>
      have hfind : tasks.find? (.id event.taskId.toUInt32) = some task := htask
      rw [runningAfter_odd hplace hlast hrunning, pairFrom]
      simp only [hfind, hswitch]
  | @mismatch task running last htask hplace hswitch hlast hrunning hother =>
      have hfind : tasks.find? (.id event.taskId.toUInt32) = some task := htask
      have hid : running.id ≠ task.id := fun hid => hother <| UInt8.toNat_inj.mp <| by
        rw [← (TraceEvent.task?_eq_some_iff.mp hrunning).2,
          ← (TraceEvent.task?_eq_some_iff.mp htask).2, hid]
      rw [runningAfter_odd hplace hlast hrunning, pairFrom]
      simp only [hfind, hswitch, if_neg hid]

/-- Regular events are taken, and give their slices. -/
theorem ofEvents_regular (h : Regular tasks events) :
    ofEvents tasks events = .ok ⟨slicesOf tasks events⟩ := by
  have hpair := pairFrom_append h []
  rw [List.append_nil, pairFrom] at hpair
  rw [ofEvents, hpair]
  change Except.ok (Trace.mk (slicesOf tasks events ++ [])) = _
  rw [List.append_nil]

/-- The first event that does not fit is the fault that is told. -/
theorem ofEvents_firstFault (h : FirstFault tasks events error) :
    ofEvents tasks events = .error error := by
  obtain ⟨before, event, after, rfl, hbefore, hevent⟩ := h
  rw [ofEvents, pairFrom_append hbefore, pairFrom_faulty hevent]
  rfl

/-- Exactly regular events are taken, and the trace holds their slices. -/
theorem ofEvents_eq_ok_iff {trace : Trace} :
    ofEvents tasks events = .ok trace ↔ Regular tasks events ∧ trace = ⟨slicesOf tasks events⟩ := by
  constructor
  · intro h
    rcases regular_or_first_fault tasks events with hregular | ⟨error, hfault⟩
    · rw [ofEvents_regular hregular] at h
      exact ⟨hregular, (Except.ok.inj h).symm⟩
    · rw [ofEvents_firstFault hfault] at h
      cases h
  · rintro ⟨hregular, rfl⟩
    exact ofEvents_regular hregular

/-- A fault is told exactly if it is that of the first event that does not fit. -/
theorem ofEvents_eq_error_iff :
    ofEvents tasks events = .error error ↔ FirstFault tasks events error := by
  refine eq_error_iff_of_cases ?_ (fun _ => ofEvents_firstFault) error
  exact (regular_or_first_fault tasks events).imp_left fun h => ⟨_, ofEvents_regular h⟩

/-- Every pair of regular events has a slice. -/
theorem Regular.exists_slice (h : Regular tasks events) {number : Nat}
    (hnumber : number < events.length / 2) : ∃ slice, slice? tasks events number = some slice := by
  have hfirst : events[2 * number]? = some events[2 * number] := List.getElem?_eq_getElem (by omega)
  have hsecond : events[2 * number + 1]? = some events[2 * number + 1] :=
    List.getElem?_eq_getElem (by omega)
  obtain ⟨task, htask⟩ := (h.fits hfirst).1
  exact ⟨_, slice?_of_pair hfirst hsecond htask⟩

/-- The slices of regular events, none of which is left out. -/
theorem Regular.map_slicesOf (h : Regular tasks events) : (slicesOf tasks events).map some =
    (List.range (events.length / 2)).map (slice? tasks events) := by
  rw [slicesOf, List.map_filterMap_some_eq_filter_map_isSome, List.filter_eq_self]
  intro slice hslice
  obtain ⟨number, hnumber, rfl⟩ := List.mem_map.mp hslice
  exact Option.isSome_iff_exists.mpr (h.exists_slice (List.mem_range.mp hnumber))

/-- Every two regular events make one slice. -/
theorem Regular.length_slicesOf (h : Regular tasks events) :
    (slicesOf tasks events).length = events.length / 2 := by
  rw [← List.length_map some, h.map_slicesOf, List.length_map, List.length_range]

/-- A slice is that of the pair with its number. -/
theorem Regular.getElem?_slicesOf (h : Regular tasks events) {number : Nat}
    (hnumber : number < events.length / 2) :
    (slicesOf tasks events)[number]? = slice? tasks events number := by
  obtain ⟨slice, hslice⟩ := h.exists_slice hnumber
  have hall : ((slicesOf tasks events).map some)[number]? = some (some slice) := by
    rw [h.map_slicesOf, List.getElem?_map, List.getElem?_range hnumber, Option.map_some, hslice]
  rw [List.getElem?_map] at hall
  obtain ⟨found, hfound, hsame⟩ := Option.map_eq_some_iff.mp hall
  rw [hfound, hsame, hslice]

end Trace

/-! ## Records -/

/-- A byte stands for the switch that is written as it. -/
theorem Switch.ofByte?_eq_some_iff {byte : UInt8} {switch : Switch} :
    ofByte? byte = some switch ↔ byte = switch.byte := by
  cases switch <;> simp only [ofByte?, Switch.byte] <;> grind

namespace TraceEvent

/-- All events are written in the same number of bytes. -/
theorem length_encode (event : TraceEvent) : event.encode.length = size := by
  rw [encode, List.length_cons, List.length_cons, Bytes.ofUInt32, Bytes.length_ofNat]
  rfl

/-- So many events are written in a multiple of it. -/
theorem length_flatMap_encode (events : List TraceEvent) :
    (events.flatMap encode).length % size = 0 := by
  induction events with
  | nil => rfl
  | cons event rest ih =>
      rw [List.flatMap_cons, List.length_append, length_encode, Nat.add_mod_left, ih]

/-- Events are read back as they were written, wherever the count of records starts. -/
theorem decodeFrom_flatMap (index : Nat) (events : List TraceEvent) :
    decodeFrom index (events.flatMap encode) = .ok events := by
  induction events generalizing index with
  | nil => rfl
  | cons event rest ih =>
      obtain ⟨t3, t2, t1, t0, htime⟩ :
          ∃ t3 t2 t1 t0, Bytes.ofUInt32 event.time = [t3, t2, t1, t0] := ⟨_, _, _, _, rfl⟩
      have hswitch := Switch.ofByte?_eq_some_iff.mpr (Eq.refl event.switch.byte)
      have hrecord : event.encode ++ rest.flatMap encode =
          event.switch.byte :: event.taskId :: t3 :: t2 :: t1 :: t0 :: rest.flatMap encode := by
        rw [encode, htime]
        rfl
      rw [List.flatMap_cons, hrecord, decodeFrom]
      simp only [hswitch, ih, ← htime, Bytes.toUInt32_ofUInt32]
      rfl

/-- Whole records are those of the events that are read. -/
theorem flatMap_of_decodeFrom {index : Nat} {trace : Bytes} {events : List TraceEvent}
    (hsize : trace.length % size = 0) (h : decodeFrom index trace = .ok events) :
    trace = events.flatMap encode := by
  fun_induction decodeFrom index trace generalizing events with
  | case1 index tag task t3 t2 t1 t0 rest switch hswitch ih =>
      obtain ⟨others, hothers, h⟩ := bind_eq_ok.mp h
      obtain rfl := Except.ok.inj h
      have hrest : rest.length % size = 0 := by
        simp only [List.length_cons, size] at hsize ⊢
        omega
      rw [List.flatMap_cons, ← ih hrest hothers, encode, Switch.ofByte?_eq_some_iff.mp hswitch,
        @Bytes.ofUInt32_toUInt32 [t3, t2, t1, t0] rfl]
      rfl
  | case2 => cases h
  | case3 trace index hshort =>
      obtain rfl := Except.ok.inj h
      -- fewer bytes than a record has are whole records only if there are none
      rcases trace with _ | ⟨_, _ | ⟨_, _ | ⟨_, _ | ⟨_, _ | ⟨_, _ | ⟨_, _⟩⟩⟩⟩⟩⟩
      · rfl
      · cases hsize
      · cases hsize
      · cases hsize
      · cases hsize
      · cases hsize
      · exact absurd rfl (hshort _ _ _ _ _ _ _)

/-- A trace is read exactly if it is what events are written as. -/
theorem decodeAll_eq_ok_iff {trace : Bytes} {events : List TraceEvent} :
    decodeAll trace = .ok events ↔ trace = events.flatMap encode := by
  rw [decodeAll]
  split
  · rename_i hsize
    refine ⟨flatMap_of_decodeFrom hsize, ?_⟩
    rintro rfl
    exact decodeFrom_flatMap 0 events
  · rename_i hsize
    refine ⟨nofun, ?_⟩
    rintro rfl
    exact absurd (length_flatMap_encode events) hsize

end TraceEvent

/-! ## The whole -/

namespace Trace

/-- A trace is paired if its events switch in and out by turns, each task known and the same in a
pair, and then every pair is a slice. Else the first event that does not fit is refused, in the
first place if its task is unknown. In its recorded form a trace consists of the records of its
events and of nothing else. -/
theorem reads_regular_traces (tasks : Tasks) :
    (∀ (event : TraceEvent) task, event.task? tasks = some task ↔
      task ∈ tasks.entries ∧ task.id.val = event.taskId.toNat) ∧
    (∀ events, ((∃ trace, ofEvents tasks events = .ok trace) ↔ Regular tasks events) ∧
      (∀ trace, ofEvents tasks events = .ok trace →
        trace.slices.length = events.length / 2 ∧
        ∀ number first second,
          events[2 * number]? = some first → events[2 * number + 1]? = some second →
          ∃ task, first.task? tasks = some task ∧
            trace.slices[number]? = some ⟨task.name, task.id, first.time, second.time⟩) ∧
      ∀ error, ofEvents tasks events = .error error ↔ FirstFault tasks events error) ∧
    ∀ data, (∀ events, TraceEvent.decodeAll data = .ok events ↔
        data = events.flatMap TraceEvent.encode) ∧
      (∀ trace, decode tasks data = .ok trace ↔
        ∃ events, data = events.flatMap TraceEvent.encode ∧ ofEvents tasks events = .ok trace) ∧
      ∀ error, decode tasks data = .error error ↔ TraceEvent.decodeAll data = .error error ∨
        ∃ events, data = events.flatMap TraceEvent.encode ∧
          ofEvents tasks events = .error error := by
  refine ⟨fun _ _ => TraceEvent.task?_eq_some_iff, fun events => ⟨⟨?_, ?_⟩, ?_, ?_⟩,
    fun data => ⟨?_, ?_, ?_⟩⟩
  · rintro ⟨trace, htrace⟩
    exact (ofEvents_eq_ok_iff.mp htrace).1
  · exact fun h => ⟨_, ofEvents_regular h⟩
  · intro trace htrace
    obtain ⟨hregular, rfl⟩ := ofEvents_eq_ok_iff.mp htrace
    refine ⟨hregular.length_slicesOf, fun number first second hfirst hsecond => ?_⟩
    obtain ⟨task, htask⟩ := (hregular.fits hfirst).1
    have hlast := (List.getElem?_eq_some_iff.mp hsecond).1
    refine ⟨task, htask, ?_⟩
    rw [hregular.getElem?_slicesOf (by omega), slice?_of_pair hfirst hsecond htask]
  · exact fun error => ofEvents_eq_error_iff
  · exact fun events => TraceEvent.decodeAll_eq_ok_iff
  · intro trace
    rw [decode, bind_eq_ok]
    simp only [TraceEvent.decodeAll_eq_ok_iff]
  · intro error
    rw [decode, bind_eq_error]
    simp only [TraceEvent.decodeAll_eq_ok_iff]

end Trace

end GroundLink
