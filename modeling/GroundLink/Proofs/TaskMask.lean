import GroundLink.Proofs.Registry

/-!
# Masks and sets of tasks

A mask `Holds` an id if the bit with its number is set. Read `masks_stand_for_tasks` first: between
the masks of the bits that tasks have and the sets of tasks, `maskOf` and `inMask` go to and fro.

`maskOf_eq_map` splits the making of a mask into finding the tasks and uniting their bits, and
`holds_unite` says what a union holds. Nothing else looks at single bits.
-/

namespace GroundLink

/-- Whether the bit of an id is set in a mask. -/
def Holds (mask : UInt32) (id : Fin 32) : Prop :=
  mask.toNat.testBit id.val = true

/-- The mask 0 holds no id. -/
theorem not_holds_zero (id : Fin 32) : ¬Holds 0 id := by
  rw [Holds, UInt32.toNat_zero, Nat.zero_testBit]
  exact Bool.false_ne_true

/-- A union holds what either of two masks holds. -/
theorem holds_or {first second : UInt32} {id : Fin 32} :
    Holds (first ||| second) id ↔ Holds first id ∨ Holds second id := by
  rw [Holds, UInt32.toNat_or, Nat.testBit_or, Bool.or_eq_true]
  exact Iff.rfl

/-- The mask of a task holds its id and no other. -/
theorem TaskSpec.holds_bit (spec : TaskSpec) (id : Fin 32) : Holds spec.bit id ↔ spec.id = id := by
  have hnumber : spec.id.val % 2 ^ 32 % 32 = spec.id.val := by omega
  have hpower : spec.bit.toNat = 2 ^ spec.id.val := by
    have hlt : 2 ^ spec.id.val < 2 ^ 32 := Nat.pow_lt_pow_right (by decide) spec.id.isLt
    rw [bit, UInt32.toNat_shiftLeft, UInt32.toNat_ofNat', hnumber, UInt32.toNat_one,
      Nat.one_shiftLeft, Nat.mod_eq_of_lt hlt]
  rw [Holds, hpower, Nat.testBit_two_pow, decide_eq_true_iff, Fin.ext_iff]

/-- A mask is known by the ids that it holds. -/
theorem eq_of_holds_iff {first second : UInt32} (h : ∀ id, Holds first id ↔ Holds second id) :
    first = second := by
  have hhigh (mask : UInt32) {i : Nat} (hi : 32 ≤ i) : mask.toNat.testBit i = false :=
    Nat.testBit_lt_two_pow
      (Nat.lt_of_lt_of_le mask.toNat_lt (Nat.pow_le_pow_right (by decide) hi))
  refine UInt32.toNat_inj.mp (Nat.eq_of_testBit_eq fun i => ?_)
  by_cases hi : i < 32
  case pos => exact Bool.eq_iff_iff.mpr (h ⟨i, hi⟩)
  case neg => rw [hhigh first (Nat.le_of_not_lt hi), hhigh second (Nat.le_of_not_lt hi)]

/-- The mask of some tasks. -/
def unite (specs : List TaskSpec) : UInt32 :=
  specs.foldl (fun mask spec => mask ||| spec.bit) 0

/-- A union holds the ids of its tasks. -/
theorem holds_unite {specs : List TaskSpec} {id : Fin 32} :
    Holds (unite specs) id ↔ ∃ spec ∈ specs, spec.id = id := by
  have hfrom (mask : UInt32) : Holds (specs.foldl (fun mask spec => mask ||| spec.bit) mask) id ↔
      Holds mask id ∨ ∃ spec ∈ specs, spec.id = id := by
    induction specs generalizing mask with
    | nil => simp
    | cons spec rest ih => rw [List.foldl_cons, ih, holds_or, spec.holds_bit, or_assoc,
        List.exists_mem_cons_iff]
  rw [unite, hfrom, or_iff_right (not_holds_zero id)]

namespace Tasks

variable {tasks : Tasks} {keys : List Key} {mask : UInt32}

/-- A key gives the task that it names. -/
theorem task_eq_ok_iff {key : Key} {spec : TaskSpec} :
    tasks.task key = .ok spec ↔ spec ∈ tasks.entries ∧ key.Names spec := by
  rw [task, ← find?_eq_some_iff]
  cases tasks.find? key <;> simp

/-- The mask of some keys is the union of the tasks that are found for them. -/
theorem maskOf_eq_map (tasks : Tasks) (keys : List Key) :
    tasks.maskOf keys = (keys.mapM tasks.task).map unite := by
  have hfrom (mask : UInt32) :
      keys.foldlM (fun mask key => (tasks.task key).map fun spec => mask ||| spec.bit) mask =
        (keys.mapM tasks.task).map (List.foldl (fun mask spec => mask ||| spec.bit) mask) := by
    induction keys generalizing mask with
    | nil => rfl
    | cons key rest ih =>
        rw [List.foldlM_cons, List.mapM_cons]
        cases tasks.task key with
        | error e => rfl
        | ok spec =>
            show rest.foldlM _ (mask ||| spec.bit) = _
            rw [ih]
            cases rest.mapM tasks.task <;> rfl
  exact hfrom 0

/-- A mask can be made if every key names a task. -/
theorem exists_maskOf_eq_ok : (∃ mask, tasks.maskOf keys = .ok mask) ↔
    ∀ key ∈ keys, ∃ spec ∈ tasks.entries, key.Names spec := by
  rw [maskOf_eq_map, exists_map_eq_ok, exists_mapM_eq_ok]
  simp only [task_eq_ok_iff]

/-- The mask holds the ids of the tasks that the keys name. -/
theorem holds_of_maskOf (h : tasks.maskOf keys = .ok mask) (id : Fin 32) : Holds mask id ↔
    ∃ key ∈ keys, ∃ spec ∈ tasks.entries, key.Names spec ∧ spec.id = id := by
  rw [maskOf_eq_map] at h
  obtain ⟨specs, hspecs, rfl⟩ := map_eq_ok.mp h
  have hfound := forall₂_of_mapM hspecs
  rw [holds_unite]
  constructor
  · rintro ⟨spec, hspec, hid⟩
    obtain ⟨key, hkey, hnames⟩ := exists_of_forall₂ hfound.flip spec hspec
    obtain ⟨hmem, hnames⟩ := task_eq_ok_iff.mp hnames
    exact ⟨key, hkey, spec, hmem, hnames, hid⟩
  · rintro ⟨key, hkey, spec, hmem, hnames, hid⟩
    obtain ⟨other, hother, hok⟩ := exists_of_forall₂ hfound key hkey
    obtain rfl := Except.ok.inj ((task_eq_ok_iff.mpr ⟨hmem, hnames⟩).symm.trans hok)
    exact ⟨spec, hother, hid⟩

/-- Which mask some keys have. -/
theorem maskOf_eq_ok_iff : tasks.maskOf keys = .ok mask ↔
    (∀ key ∈ keys, ∃ spec ∈ tasks.entries, key.Names spec) ∧
      ∀ id, Holds mask id ↔
        ∃ key ∈ keys, ∃ spec ∈ tasks.entries, key.Names spec ∧ spec.id = id := by
  constructor
  · exact fun h => ⟨exists_maskOf_eq_ok.mp ⟨mask, h⟩, holds_of_maskOf h⟩
  · rintro ⟨hkeys, hmask⟩
    obtain ⟨other, hother⟩ := exists_maskOf_eq_ok.mpr hkeys
    have hsame : other = mask :=
      eq_of_holds_iff fun id => (holds_of_maskOf hother id).trans (hmask id).symm
    rwa [hsame] at hother

/-- A key that is for no task leads to an error of its own, unless an earlier one did. -/
theorem first_of_maskOf {error : SpecError} (h : tasks.maskOf keys = .error error) :
    ∃ before key after, keys = before ++ key :: after ∧
      (∀ earlier ∈ before, ∃ spec ∈ tasks.entries, earlier.Names spec) ∧
      (∀ spec ∈ tasks.entries, ¬key.Names spec) ∧ error = .notFound .task key := by
  rw [maskOf_eq_map, map_eq_error] at h
  obtain ⟨before, key, after, rfl, hbefore, hkey⟩ := first_of_mapM h
  simp only [task_eq_ok_iff] at hbefore
  refine ⟨before, key, after, rfl, hbefore, ?_⟩
  rw [← find?_eq_none_iff]
  unfold task at hkey
  split at hkey
  · cases hkey
  · rename_i hnone
    exact ⟨hnone, (Except.error.inj hkey).symm⟩

/-- A slot leads to the task with its id. -/
theorem slot_eq_some_iff {id : Nat} {spec : TaskSpec} :
    (tasks.index.slot? id).bind (tasks.entries[·]?) = some spec ↔
      spec ∈ tasks.entries ∧ spec.id.val = id :=
  tasks.indexed.2.ids.find_eq_some_iff

/-- The tasks of a mask are those whose ids it holds. -/
theorem mem_inMask {spec : TaskSpec} :
    spec ∈ tasks.inMask mask ↔ spec ∈ tasks.entries ∧ Holds mask spec.id := by
  simp only [inMask, List.mem_filterMap, List.mem_range, Option.ite_none_right_eq_some,
    slot_eq_some_iff]
  constructor
  · rintro ⟨bit, hbit, hset, hmem, rfl⟩
    exact ⟨hmem, hset⟩
  · rintro ⟨hmem, hset⟩
    exact ⟨spec.id, spec.id.isLt, hset, hmem, rfl⟩

/-- The tasks of a mask stand in the order of their ids, each once. -/
theorem pairwise_inMask (tasks : Tasks) (mask : UInt32) :
    (tasks.inMask mask).Pairwise fun first second => first.id < second.id := by
  rw [inMask, List.pairwise_filterMap]
  refine List.pairwise_lt_range.imp fun {low high} hlt first hfirst second hsecond => ?_
  obtain ⟨-, hfirst⟩ := Option.ite_none_right_eq_some.mp hfirst
  obtain ⟨-, hsecond⟩ := Option.ite_none_right_eq_some.mp hsecond
  rw [Fin.lt_def, (slot_eq_some_iff.mp hfirst).2, (slot_eq_some_iff.mp hsecond).2]
  exact hlt

/-- Keys that name the tasks of a mask one by one give the mask back, less the bits without a
task. -/
theorem maskOf_inMask (h : List.Forall₂ Key.Names keys (tasks.inMask mask)) :
    ∃ found, tasks.maskOf keys = .ok found ∧
      ∀ id, Holds found id ↔ Holds mask id ∧ ∃ spec ∈ tasks.entries, spec.id = id := by
  have hkeys : ∀ key ∈ keys, ∃ spec ∈ tasks.entries, key.Names spec := by
    intro key hkey
    obtain ⟨spec, hspec, hnames⟩ := exists_of_forall₂ h key hkey
    exact ⟨spec, (mem_inMask.mp hspec).1, hnames⟩
  obtain ⟨found, hfound⟩ := exists_maskOf_eq_ok.mpr hkeys
  refine ⟨found, hfound, fun id => (holds_of_maskOf hfound id).trans ?_⟩
  constructor
  · rintro ⟨key, hkey, spec, hmem, hnames, rfl⟩
    obtain ⟨listed, hlisted, hother⟩ := exists_of_forall₂ h key hkey
    obtain ⟨hlistedMem, hset⟩ := mem_inMask.mp hlisted
    have hsame : some spec = some listed :=
      (find?_eq_some_iff.mpr ⟨hmem, hnames⟩).symm.trans
        (find?_eq_some_iff.mpr ⟨hlistedMem, hother⟩)
    obtain rfl := Option.some.inj hsame
    exact ⟨hset, spec, hmem, rfl⟩
  · rintro ⟨hset, spec, hmem, rfl⟩
    obtain ⟨key, hkey, hnames⟩ := exists_of_forall₂ h.flip spec (mem_inMask.mpr ⟨hmem, hset⟩)
    exact ⟨key, hkey, spec, hmem, hnames, rfl⟩

/-- The tasks of the mask of some keys are the tasks that the keys name. -/
theorem mem_inMask_maskOf (h : tasks.maskOf keys = .ok mask) {spec : TaskSpec} :
    spec ∈ tasks.inMask mask ↔ spec ∈ tasks.entries ∧ ∃ key ∈ keys, key.Names spec := by
  rw [mem_inMask, holds_of_maskOf h]
  refine and_congr_right fun hmem => ?_
  constructor
  · rintro ⟨key, hkey, other, hother, hnames, hid⟩
    have hsame : other = spec := by
      refine List.inj_on_of_nodup_map tasks.distinct_ids hother hmem ?_
      exact congrArg Fin.val hid
    exact ⟨key, hkey, hsame ▸ hnames⟩
  · rintro ⟨key, hkey, hnames⟩
    exact ⟨key, hkey, spec, hmem, hnames, rfl⟩

end Tasks

/-- The tasks of a mask are the defined ones whose bits are set, in the order of their ids, and keys
that name them one by one give back the mask without the bits of no task. A mask can be made of keys
if each names a task; it is the same for every list of the same keys, and the tasks in it are the
ones that the keys name. Else the first key that names none is the fault. -/
theorem masks_stand_for_tasks {specs : List TaskSpec} {tasks : Tasks}
    (h : Tasks.ofList specs = .ok tasks) :
    (∀ mask,
      (tasks.inMask mask).Pairwise (fun first second => first.id < second.id) ∧
      (∀ spec, spec ∈ tasks.inMask mask ↔ spec ∈ specs ∧ Holds mask spec.id) ∧
      ∀ keys, List.Forall₂ Key.Names keys (tasks.inMask mask) →
        ∃ found, tasks.maskOf keys = .ok found ∧
          ∀ id, Holds found id ↔ Holds mask id ∧ ∃ spec ∈ specs, spec.id = id) ∧
    ∀ keys,
      ((∃ mask, tasks.maskOf keys = .ok mask) ↔ ∀ key ∈ keys, ∃ spec ∈ specs, key.Names spec) ∧
      (∀ others, (∀ key, key ∈ others ↔ key ∈ keys) →
        ∀ mask, tasks.maskOf others = .ok mask ↔ tasks.maskOf keys = .ok mask) ∧
      (∀ mask, tasks.maskOf keys = .ok mask → ∀ spec,
        spec ∈ tasks.inMask mask ↔ spec ∈ specs ∧ ∃ key ∈ keys, key.Names spec) ∧
      ∀ error, tasks.maskOf keys = .error error → ∃ before key after,
        keys = before ++ key :: after ∧
          (∀ earlier ∈ before, ∃ spec ∈ specs, earlier.Names spec) ∧
          (∀ spec ∈ specs, ¬key.Names spec) ∧ error = .notFound .task key := by
  obtain rfl := Tasks.ofList_eq_ok_iff.mp h
  refine ⟨fun mask => ⟨tasks.pairwise_inMask mask, fun _ => Tasks.mem_inMask, fun _ =>
    Tasks.maskOf_inMask⟩, fun keys => ⟨Tasks.exists_maskOf_eq_ok, fun others hsame mask => ?_,
    fun _ hmask _ => Tasks.mem_inMask_maskOf hmask, fun _ => Tasks.first_of_maskOf⟩⟩
  simp only [Tasks.maskOf_eq_ok_iff, hsame]

/-- Three tasks, a mask with a bit of no task, and keys that name its tasks in other letter
cases. -/
theorem masks_stand_for_three_tasks :
    ∃ specs tasks, specs.map TaskSpec.name = ["adcs", "idle", "comms"] ∧
      Tasks.ofList specs = .ok tasks ∧
      (tasks.inMask 0x80000111).map TaskSpec.name = ["idle", "comms", "adcs"] ∧
      ∃ found, tasks.maskOf [.name "IDLE", .id 4, .name "Adcs"] = .ok found ∧
        ∀ id, Holds found id ↔ Holds 0x80000111 id ∧ ∃ spec ∈ specs, spec.id = id := by
  let adcs : TaskSpec := ⟨"adcs", 31, 2048, 5, by decide⟩
  let idle : TaskSpec := ⟨"idle", 0, 256, 0, by decide⟩
  let comms : TaskSpec := ⟨"comms", 4, 1024, 3, by decide⟩
  have hspecs : [adcs, idle, comms].Pairwise Compatible := by decide
  obtain ⟨tasks, hbuilt⟩ := (tasks_look_up.accepts _).mpr hspecs
  obtain ⟨hmasks, -⟩ := masks_stand_for_tasks hbuilt
  have hrun : (Tasks.ofList [adcs, idle, comms]).map (Tasks.inMask · 0x80000111) =
      .ok [idle, comms, adcs] := by
    decide +kernel
  have hlisted : tasks.inMask 0x80000111 = [idle, comms, adcs] := by
    rw [hbuilt] at hrun
    exact Except.ok.inj hrun
  have hnamed : List.Forall₂ Key.Names [.name "IDLE", .id 4, .name "Adcs"]
      (tasks.inMask 0x80000111) := by
    rw [hlisted]
    have hidle : SameName "idle" "IDLE" := by decide
    have hadcs : SameName "adcs" "Adcs" := by decide
    exact .cons hidle (.cons rfl (.cons hadcs .nil))
  exact ⟨[adcs, idle, comms], tasks, rfl, hbuilt, by rw [hlisted]; rfl, (hmasks _).2.2 _ hnamed⟩

end GroundLink
