import GroundLink.Proofs.Registry.Clash
import GroundLink.Registry.Task

/-!
# Indexes of entries

What a registry knows of its entries is an index: two maps for most of them (`NameIdIndex`), 32
slots and a map for tasks (`TaskIndex`). An index is right if each of its parts `PointsTo` the
positions of the entries; read it first. Being right is kept from entry to entry while an index is
built, up to the first clash (`IndexesEach`), so an index that was built is right about all entries,
and finds exactly the entry that a key names (`NameIdIndex.find_eq_some_iff`,
`TaskIndex.find_eq_some_iff`).
-/

namespace GroundLink

/-! ## Look-ups that lead to positions -/

/-- A look-up leads to the positions of entries: whatever an entry has, to the position of this
entry. -/
def PointsTo {α κ : Type} (look : κ → Option Nat) (key : α → κ) (entries : List α) : Prop :=
  ∀ wanted position, look wanted = some position ↔
    ∃ entry, entries[position]? = some entry ∧ key entry = wanted

namespace PointsTo

variable {α κ : Type} {look next : κ → Option Nat} {key : α → κ} {entries : List α} {entry : α}
  {wanted : κ}

/-- Where there are no entries, nothing leads anywhere. -/
theorem nil (h : ∀ wanted, look wanted = none) : PointsTo look key [] := by
  intro wanted position
  rw [h]
  exact ⟨nofun, fun ⟨_, hentry, _⟩ => nomatch hentry⟩

/-- What an entry has leads to it. -/
theorem exists_of_mem (h : PointsTo look key entries) (hentry : entry ∈ entries) :
    ∃ position, look (key entry) = some position ∧ entries[position]? = some entry := by
  obtain ⟨position, hposition⟩ := List.mem_iff_getElem?.mp hentry
  exact ⟨position, (h _ _).mpr ⟨entry, hposition, rfl⟩, hposition⟩

/-- Only what no entry has leads nowhere. -/
theorem eq_none_iff (h : PointsTo look key entries) :
    look wanted = none ↔ ∀ entry ∈ entries, key entry ≠ wanted := by
  constructor
  · rintro hnone entry hentry rfl
    obtain ⟨position, hlook, -⟩ := h.exists_of_mem hentry
    exact nomatch hnone.symm.trans hlook
  · intro hnone
    cases hlook : look wanted with
    | none => rfl
    | some position =>
        obtain ⟨entry, hposition, hkey⟩ := (h _ _).mp hlook
        exact absurd hkey (hnone entry (List.mem_of_getElem? hposition))

/-- The entry at a position is found by what it has. -/
theorem find_eq_some_iff (h : PointsTo look key entries) :
    (look wanted).bind (entries[·]?) = some entry ↔ entry ∈ entries ∧ key entry = wanted := by
  rw [Option.bind_eq_some_iff]
  constructor
  · rintro ⟨position, hlook, hposition⟩
    obtain ⟨other, hother, hkey⟩ := (h _ _).mp hlook
    obtain rfl := Option.some.inj (hposition.symm.trans hother)
    exact ⟨List.mem_of_getElem? hposition, hkey⟩
  · rintro ⟨hentry, rfl⟩
    exact h.exists_of_mem hentry

/-- An entry with something new may stand behind the others. -/
theorem concat [DecidableEq κ] (h : PointsTo look key entries)
    (hnew : ∀ other ∈ entries, key other ≠ key entry)
    (hnext : ∀ wanted, next wanted =
      if key entry = wanted then some entries.length else look wanted) :
    PointsTo next key (entries ++ [entry]) := by
  intro wanted position
  rw [hnext]
  by_cases hkey : key entry = wanted
  case pos =>
    rw [if_pos hkey, Option.some.injEq]
    constructor
    · rintro rfl
      exact ⟨entry, List.getElem?_concat_length, hkey⟩
    · rintro ⟨other, hposition, hother⟩
      rw [List.getElem?_append] at hposition
      split at hposition
      case isTrue =>
        exact absurd (hother.trans hkey.symm) (hnew other (List.mem_of_getElem? hposition))
      case isFalse hle =>
        have := (List.getElem?_eq_some_iff.mp hposition).1
        rw [List.length_singleton] at this
        omega
  case neg =>
    rw [if_neg hkey, h]
    refine exists_congr fun other => and_congr_left fun hother => ?_
    rw [List.getElem?_append]
    split
    case isTrue => rfl
    case isFalse hle =>
      rw [List.getElem?_eq_none (Nat.not_lt.mp hle)]
      refine ⟨nofun, fun hposition => ?_⟩
      obtain rfl := List.mem_singleton.mp (List.mem_of_getElem? hposition)
      exact absurd hother hkey

/-- Only a name that no entry has, in whatever case, leads nowhere. -/
theorem name_eq_none_iff [Entry α] {look : String → Option Nat} {name : String}
    (h : PointsTo look (fun entry => foldName (Entry.name entry)) entries) :
    look (foldName name) = none ↔ ∀ entry ∈ entries, ¬SameName (Entry.name entry) name := by
  rw [h.eq_none_iff]
  exact forall₂_congr fun entry _ => not_congr (foldName_eq_iff _ _)

/-- What is put into a map leads where it says, everything else leads where it did. -/
theorem concat_insert [Ord κ] [Std.TransOrd κ] [Std.LawfulEqOrd κ] [DecidableEq κ]
    {map : Std.TreeMap κ Nat} (h : PointsTo (map[·]?) key entries)
    (hnew : ∀ other ∈ entries, key other ≠ key entry) :
    PointsTo ((map.insert (key entry) entries.length)[·]?) key (entries ++ [entry]) := by
  refine h.concat hnew fun wanted => ?_
  rw [Std.TreeMap.getElem?_insert]
  simp only [Std.LawfulEqCmp.compare_eq_iff_eq]

section Names

variable [Entry α] {byName : Std.TreeMap String Nat}

/-- A new name is put into a map of names. -/
theorem concat_name (h : PointsTo (byName[·]?) (fun entry => foldName (Entry.name entry)) entries)
    (hnew : ∀ other ∈ entries, ¬SameName (Entry.name other) (Entry.name entry)) :
    ∃ next, byName.containsThenInsert (foldName (Entry.name entry)) entries.length =
        (false, next) ∧
      PointsTo (next[·]?) (fun entry => foldName (Entry.name entry)) (entries ++ [entry]) := by
  refine ⟨_, Prod.ext ?_ Std.TreeMap.containsThenInsert_snd, h.concat_insert fun other hother =>
    mt (foldName_eq_iff _ _).mp (hnew other hother)⟩
  rw [Std.TreeMap.containsThenInsert_fst, Std.TreeMap.contains_eq_isSome_getElem?,
    h.name_eq_none_iff.mpr hnew, Option.isSome_none]

/-- A name that an entry has is found in the map. -/
theorem name_taken (h : PointsTo (byName[·]?) (fun entry => foldName (Entry.name entry)) entries)
    {other : α} (hother : other ∈ entries) {name : String}
    (hsame : SameName (Entry.name other) name) (position : Nat) :
    ∃ next, byName.containsThenInsert (foldName name) position = (true, next) := by
  obtain ⟨found, hfound, -⟩ := h.exists_of_mem hother
  rw [(foldName_eq_iff _ _).mpr hsame] at hfound
  refine ⟨_, Prod.ext ?_ rfl⟩
  rw [Std.TreeMap.containsThenInsert_fst, Std.TreeMap.contains_eq_isSome_getElem?, hfound,
    Option.isSome_some]

end Names

end PointsTo

section Building

variable {α ι : Type} [Entry α] {kind : EntryKind} {before entries : List α} {entry : α}
  {clash : Clash} {index start : ι}

/-- A way to index entries one after another. An index of those before an entry is made into one of
this entry, too, if it goes with them, and is given up if something is wrong with it. -/
structure IndexesEach (kind : EntryKind) (Indexes : ι → List α → Prop)
    (extend : ι → List α → List α → Except Clash ι) : Prop where
  ends : ∀ index before, extend index before [] = .ok index
  goes_on : ∀ {index before entry}, Indexes index before →
    (∀ other ∈ before, Compatible other entry) → ∀ rest, ∃ next, Indexes next (before ++ [entry]) ∧
      extend index before (entry :: rest) = extend next (before ++ [entry]) rest
  gives_up : ∀ {index before entry clash}, Indexes index before →
    ClashesWith kind before entry clash → ∀ rest, extend index before (entry :: rest) = .error clash

namespace IndexesEach

variable {Indexes : ι → List α → Prop} {extend : ι → List α → List α → Except Clash ι}

/-- The index is right behind any number of entries that go together. -/
theorem behind (h : IndexesEach kind Indexes extend) (hindex : Indexes index before)
    (hentries : (before ++ entries).Pairwise Compatible) (rest : List α) :
    ∃ next, Indexes next (before ++ entries) ∧
      extend index before (entries ++ rest) = extend next (before ++ entries) rest := by
  induction entries generalizing index before with
  | nil =>
      rw [List.append_nil]
      exact ⟨index, hindex, rfl⟩
  | cons entry after ih =>
      have hentry : ∀ other ∈ before, Compatible other entry := fun other hother =>
        (List.pairwise_append.mp hentries).2.2 other hother entry List.mem_cons_self
      obtain ⟨next, hnext, hstep⟩ := h.goes_on hindex hentry (after ++ rest)
      have hassoc : before ++ [entry] ++ after = before ++ entry :: after :=
        List.append_assoc before [entry] after
      obtain ⟨last, hlast, hrun⟩ := ih hnext (hassoc ▸ hentries)
      rw [hassoc] at hlast hrun
      exact ⟨last, hlast, hstep.trans hrun⟩

/-- Entries that go together have an index. -/
theorem exists_of_compatible (h : IndexesEach kind Indexes extend) (hstart : Indexes start [])
    (hentries : entries.Pairwise Compatible) :
    ∃ index, extend start [] entries = .ok index ∧ Indexes index entries := by
  obtain ⟨index, hindex, hrun⟩ := h.behind hstart hentries []
  rw [List.append_nil, List.nil_append, h.ends] at hrun
  exact ⟨index, hrun, hindex⟩

/-- Others are given up at their first clash. -/
theorem of_first (h : IndexesEach kind Indexes extend) (hstart : Indexes start [])
    (hfirst : FirstClash kind entries clash) : extend start [] entries = .error clash := by
  obtain ⟨before, entry, after, rfl, hbefore, hclash⟩ := hfirst
  obtain ⟨index, hindex, hrun⟩ := h.behind hstart hbefore (entry :: after)
  exact hrun.trans (h.gives_up hindex hclash after)

/-- Entries that have an index go together, and the index is right. -/
theorem of_ok (h : IndexesEach kind Indexes extend) (hstart : Indexes start [])
    (hok : extend start [] entries = .ok index) :
    entries.Pairwise Compatible ∧ Indexes index entries := by
  rcases compatible_or_first_clash kind entries with hentries | ⟨clash, hfirst⟩
  · obtain ⟨other, hother, hindex⟩ := h.exists_of_compatible hstart hentries
    obtain rfl := Except.ok.inj (hok.symm.trans hother)
    exact ⟨hentries, hindex⟩
  · exact nomatch hok.symm.trans (h.of_first hstart hfirst)

end IndexesEach

end Building

/-! ## Maps of names and ids -/

namespace NameIdIndex

variable {α : Type} [Entry α] {kind other : EntryKind} {index result : NameIdIndex}
  {names : List String} {before entries : List α} {entry : α} {clash : Clash}

/-- The maps lead to the positions of entries. -/
structure Indexes (index : NameIdIndex) (entries : List α) : Prop where
  names : PointsTo (index.byName[·]?) (fun entry => foldName (Entry.name entry)) entries
  ids : PointsTo (index.byId[·]?) Entry.id entries

/-- No entries have an index. -/
theorem indexes_empty : empty.Indexes ([] : List α) :=
  ⟨PointsTo.nil fun _ => Std.TreeMap.getElem?_emptyc,
    PointsTo.nil fun _ => Std.TreeMap.getElem?_emptyc⟩

/-- Entries are put into both maps, one after another. -/
theorem indexesEach (kind : EntryKind) : IndexesEach kind (α := α) Indexes
    fun index before rest => index.extend kind (before.map Entry.name) rest where
  ends _ _ := rfl
  goes_on {index before entry} hindex hentry rest := by
    have hid : index.byId[Entry.id entry]? = none :=
      hindex.ids.eq_none_iff.mpr fun other hother => (hentry other hother).1
    obtain ⟨byName, hput, hnames⟩ :=
      hindex.names.concat_name fun other hother => (hentry other hother).2
    refine ⟨⟨byName, index.byId.insert (Entry.id entry) before.length⟩, ⟨hnames, ?_⟩, ?_⟩
    · exact hindex.ids.concat_insert fun other hother => (hentry other hother).1
    · rw [extend, hid, List.length_map, hput, List.map_append]
      rfl
  gives_up {index before entry clash} hindex hclash rest := by
    cases hclash with
    | id hother hid =>
        obtain ⟨position, hlook, hposition⟩ := hindex.ids.exists_of_mem hother
        rw [hid] at hlook
        simp [extend, hlook, hposition]
    | name hother hname hids =>
        have hid : index.byId[Entry.id entry]? = none := hindex.ids.eq_none_iff.mpr hids
        obtain ⟨byName, hput⟩ := hindex.names.name_taken hother hname (before.map _).length
        rw [extend, hid, hput]
        rfl

/-- Whether entries have an index, and which, does not depend on what they are called. -/
theorem extend_kind (h : index.extend kind names entries = .ok result) :
    index.extend other names entries = .ok result := by
  induction entries generalizing index names with
  | nil => exact h
  | cons entry rest ih =>
      unfold extend at h ⊢
      cases hid : index.byId[Entry.id entry]? with
      | some previous => simp only [hid, reduceCtorEq] at h
      | none =>
          simp only [hid] at h ⊢
          split at h
          case isTrue => cases h
          case isFalse htaken =>
            rw [if_neg htaken]
            exact ih h

/-- The index leads to exactly the entry that a key names. -/
theorem Indexes.find_eq_some_iff (h : index.Indexes entries) {key : Key} :
    (index.find? key).bind (entries[·]?) = some entry ↔ entry ∈ entries ∧ key.Names entry := by
  cases key with
  | name wanted =>
      rw [find?, h.names.find_eq_some_iff, foldName_eq_iff]
      rfl
  | id number => exact h.ids.find_eq_some_iff

end NameIdIndex

/-! ## Slots for ids -/

namespace TaskIndex

variable {index : TaskIndex} {tasks before : List TaskSpec} {task : TaskSpec}

/-- The slots and the map lead to the positions of tasks. -/
structure Indexes (index : TaskIndex) (tasks : List TaskSpec) : Prop where
  names : PointsTo (index.byName[·]?) (fun task => foldName (Entry.name task)) tasks
  ids : PointsTo index.slot? (fun task => task.id.val) tasks

/-- Behind the last slot there is nothing. -/
theorem slot?_of_le {id : Nat} (h : 32 ≤ id) : index.slot? id = none := by
  rw [slot?, Vector.getElem?_eq_none h]
  rfl

/-- The slot of an id in range is read. -/
theorem slot?_val (id : Fin 32) : index.slot? id.val = index.slots[id] := by
  rw [slot?, Vector.getElem?_eq_getElem id.isLt]
  rfl

/-- No tasks have an index. -/
theorem indexes_empty : empty.Indexes [] := by
  refine ⟨PointsTo.nil fun _ => Std.TreeMap.getElem?_emptyc, PointsTo.nil fun id => ?_⟩
  by_cases hid : id < 32
  · rw [slot?, Vector.getElem?_eq_getElem hid]
    exact Vector.getElem_replicate hid
  · exact slot?_of_le (Nat.not_lt.mp hid)

/-- A slot that is filled leads where it says, the others lead where they did. -/
theorem slot?_set (byName : Std.TreeMap String Nat) (filled : Fin 32) (position id : Nat) :
    (TaskIndex.mk (index.slots.set filled (some position)) byName).slot? id =
      if filled.val = id then some position else index.slot? id := by
  rw [slot?, slot?, Vector.getElem?_set]
  split <;> rfl

/-- Tasks are put into their slots and into the map, one after another. -/
theorem indexesEach : IndexesEach .task Indexes
    fun index before rest => index.extend (before ++ rest) before.length rest where
  ends _ _ := rfl
  goes_on {index before task} hindex htask rest := by
    have hid : index.slots[task.id] = none := by
      rw [← slot?_val]
      exact hindex.ids.eq_none_iff.mpr fun other hother => (htask other hother).1
    obtain ⟨byName, hput, hnames⟩ :=
      hindex.names.concat_name fun other hother => (htask other hother).2
    change index.byName.containsThenInsert (foldName task.name) before.length = _ at hput
    refine ⟨⟨index.slots.set task.id (some before.length), byName⟩, ⟨hnames, ?_⟩, ?_⟩
    · exact hindex.ids.concat (fun other hother => (htask other hother).1) fun wanted =>
        slot?_set _ task.id before.length wanted
    · rw [extend, hid, List.append_cons]
      dsimp only
      rw [hput, List.length_append, List.length_singleton]
      rfl
  gives_up {index before task clash} hindex hclash rest := by
    cases hclash with
    | @id other hother hid =>
        obtain ⟨position, hlook, hposition⟩ := hindex.ids.exists_of_mem hother
        have hslot : index.slots[task.id] = some position := by
          rw [← slot?_val, ← hlook]
          exact congrArg _ hid.symm
        have hbefore := (List.getElem?_eq_some_iff.mp hposition).1
        simp only [extend, hslot, List.getElem?_append_left hbefore, hposition]
        rfl
    | name hother hname hids =>
        have hid : index.slots[task.id] = none := by
          rw [← slot?_val]
          exact hindex.ids.eq_none_iff.mpr hids
        obtain ⟨byName, hput⟩ := hindex.names.name_taken hother hname before.length
        rw [extend, hid]
        dsimp only
        rw [show index.byName.containsThenInsert (foldName task.name) before.length = _ from hput]
        rfl

/-- The index leads to exactly the task that a key names. -/
theorem Indexes.find_eq_some_iff (h : index.Indexes tasks) {key : Key} :
    (index.find? key).bind (tasks[·]?) = some task ↔ task ∈ tasks ∧ key.Names task := by
  cases key with
  | name wanted =>
      rw [find?, h.names.find_eq_some_iff, foldName_eq_iff]
      rfl
  | id number => exact h.ids.find_eq_some_iff

/-- The third task has the id of the second one and the name of the first. -/
example :
    let tasks : List TaskSpec := [⟨"Idle", 0, 0, 0, by decide⟩, ⟨"comms", 4, 0, 0, by decide⟩,
      ⟨"IDLE", 4, 0, 0, by decide⟩]
    empty.extend tasks 0 tasks = .error (.duplicateId .task 4 "comms" "IDLE") := by
  cbv

end TaskIndex

end GroundLink
