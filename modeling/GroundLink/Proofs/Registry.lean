import GroundLink.Proofs.Registry.Index
import GroundLink.Registry.Command
import GroundLink.Registry.Log

/-!
# What registries accept and find

`LooksUp` compares the two sides: a way to build registries and to look entries up, and what
`Proofs.Registry.Clash` says of entries and keys. `registries_look_up` says that it holds of
commands, of the signals of a group, of log groups and of tasks.

Everything rests on what `Proofs.Registry.Index` says of the two kinds of indexes. Nothing here
knows how an entry is put into an index, or is found in it.
-/

namespace GroundLink

section Entries

variable {α : Type} [Entry α]

/-- A look-up that finds exactly what a key names finds nothing if the key names nothing. -/
theorem find_eq_none_iff {found : Option α} {entries : List α} {key : Key}
    (h : ∀ entry, found = some entry ↔ entry ∈ entries ∧ key.Names entry) :
    found = none ↔ ∀ entry ∈ entries, ¬key.Names entry := by
  rw [Option.eq_none_iff_forall_ne_some]
  simp only [ne_eq, h, not_and]

/-! ## One registry -/

namespace Registry

variable {kind : EntryKind} {entries : List α} {entry : α} {clash : Clash} {r : Registry α}
  {key : Key}

/-- The entries go together, and the index is theirs. -/
theorem indexed (r : Registry α) : r.entries.Pairwise Compatible ∧ r.index.Indexes r.entries := by
  obtain ⟨kind, hbuilt⟩ := r.built
  exact (NameIdIndex.indexesEach kind).of_ok NameIdIndex.indexes_empty hbuilt

/-- A list gives the registry that has it as entries. -/
theorem ofList_eq_ok_iff : ofList kind entries = .ok r ↔ r.entries = entries := by
  constructor
  · intro h
    unfold ofList at h
    split at h
    · cases h
    · cases h
      rfl
  · rintro rfl
    obtain ⟨other, hbuilt⟩ := r.built
    have hindex : NameIdIndex.empty.extend kind [] r.entries = .ok r.index :=
      NameIdIndex.extend_kind hbuilt
    unfold ofList
    split
    case h_1 clash hclash => cases hindex.symm.trans hclash
    case h_2 index hother =>
      obtain rfl := Except.ok.inj (hindex.symm.trans hother)
      rfl

/-- Entries that go together have a registry. -/
theorem exists_of_compatible (h : entries.Pairwise Compatible) :
    ∃ r : Registry α, r.entries = entries := by
  obtain ⟨index, hindex, -⟩ :=
    (NameIdIndex.indexesEach .command).exists_of_compatible NameIdIndex.indexes_empty h
  exact ⟨⟨entries, index, .command, hindex⟩, rfl⟩

/-- Others are refused for their first clash. -/
theorem ofList_of_first (h : FirstClash kind entries clash) :
    ofList kind entries = .error clash := by
  have hindex : NameIdIndex.empty.extend kind [] entries = .error clash :=
    (NameIdIndex.indexesEach kind).of_first NameIdIndex.indexes_empty h
  unfold ofList
  split
  case h_1 other hother => rw [Except.error.inj (hindex.symm.trans hother)]
  case h_2 index hother => cases hindex.symm.trans hother

/-- A key finds the entry that it names. -/
theorem find?_eq_some_iff : r.find? key = some entry ↔ entry ∈ r.entries ∧ key.Names entry :=
  r.indexed.2.find_eq_some_iff

/-- A key that names no entry finds nothing. -/
theorem find?_eq_none_iff : r.find? key = none ↔ ∀ entry ∈ r.entries, ¬key.Names entry :=
  find_eq_none_iff fun _ => find?_eq_some_iff

end Registry

/-! ## The tasks -/

namespace Tasks

variable {specs : List TaskSpec} {spec : TaskSpec} {clash : Clash} {tasks : Tasks} {key : Key}

/-- The tasks go together, and the index is theirs. -/
theorem indexed (tasks : Tasks) :
    tasks.entries.Pairwise Compatible ∧ tasks.index.Indexes tasks.entries :=
  TaskIndex.indexesEach.of_ok TaskIndex.indexes_empty tasks.built

/-- The ids of the tasks are distinct. -/
theorem distinct_ids (tasks : Tasks) : (tasks.entries.map Entry.id).Nodup :=
  (pairwise_compatible_iff.mp tasks.indexed.1).1

/-- A list gives the tasks in it. -/
theorem ofList_eq_ok_iff : ofList specs = .ok tasks ↔ tasks.entries = specs := by
  constructor
  · intro h
    unfold ofList at h
    split at h
    · cases h
    · cases h
      rfl
  · rintro rfl
    unfold ofList
    split
    case h_1 clash hclash => cases tasks.built.symm.trans hclash
    case h_2 index hother =>
      obtain rfl := Except.ok.inj (tasks.built.symm.trans hother)
      rfl

/-- Tasks that go together can be held. -/
theorem exists_of_compatible (h : specs.Pairwise Compatible) :
    ∃ tasks : Tasks, tasks.entries = specs := by
  obtain ⟨index, hindex, -⟩ :=
    TaskIndex.indexesEach.exists_of_compatible TaskIndex.indexes_empty h
  exact ⟨⟨specs, index, hindex⟩, rfl⟩

/-- Others are refused for their first clash. -/
theorem ofList_of_first (h : FirstClash .task specs clash) :
    ofList specs = .error (.clash clash) := by
  have hindex : TaskIndex.empty.extend specs 0 specs = .error clash :=
    TaskIndex.indexesEach.of_first TaskIndex.indexes_empty h
  unfold ofList
  split
  case h_1 other hother => rw [Except.error.inj (hindex.symm.trans hother)]
  case h_2 index hother => cases hindex.symm.trans hother

/-- A key finds the task that it names. -/
theorem find?_eq_some_iff : tasks.find? key = some spec ↔ spec ∈ tasks.entries ∧ key.Names spec :=
  tasks.indexed.2.find_eq_some_iff

/-- A key that names no task finds nothing. -/
theorem find?_eq_none_iff : tasks.find? key = none ↔ ∀ spec ∈ tasks.entries, ¬key.Names spec :=
  find_eq_none_iff fun _ => find?_eq_some_iff

end Tasks

/-! ## All registries -/

/-- A way to build registries, and to look entries up in them, does as it should: `refusal` is what
a clash leads to, and `missing` what a key leads to that is for no entry. -/
structure LooksUp {β ε : Type} (kind : EntryKind) (build : List α → Except ε β)
    (refusal : Clash → ε) (look : β → Key → Except SpecError α) (missing : Key → SpecError) :
    Prop where
  accepts : ∀ entries, (∃ r, build entries = .ok r) ↔ entries.Pairwise Compatible
  refuses : ∀ entries error,
    build entries = .error error ↔ ∃ clash, FirstClash kind entries clash ∧ error = refusal clash
  finds : ∀ {entries r}, build entries = .ok r → ∀ key entry,
    look r key = .ok entry ↔ entry ∈ entries ∧ key.Names entry
  misses : ∀ {entries r}, build entries = .ok r → ∀ key error,
    look r key = .error error ↔ (∀ entry ∈ entries, ¬key.Names entry) ∧ error = missing key

/-- It does as it should if it takes entries that go together, refuses others for their first clash,
and finds exactly what a key names. -/
theorem looks_up_of_finds {β ε : Type} {kind : EntryKind} {build : List α → Except ε β}
    {refusal : Clash → ε} {look : β → Key → Except SpecError α} {missing : Key → SpecError}
    (htakes : ∀ {entries}, entries.Pairwise Compatible → ∃ r, build entries = .ok r)
    (hrefuses : ∀ {entries clash}, FirstClash kind entries clash →
      build entries = .error (refusal clash))
    (hfinds : ∀ {entries r}, build entries = .ok r → ∃ find : Key → Option α,
      (∀ key entry, find key = some entry ↔ entry ∈ entries ∧ key.Names entry) ∧
        ∀ key, look r key = (find key).elim (.error (missing key)) .ok) :
    LooksUp kind build refusal look missing := by
  refine ⟨fun entries => ⟨?_, htakes⟩, fun entries error => ⟨fun herror => ?_, ?_⟩,
    fun hbuilt key entry => ?_, fun hbuilt key error => ?_⟩
  · rintro ⟨r, hbuilt⟩
    rcases compatible_or_first_clash kind entries with hentries | ⟨clash, hfirst⟩
    · exact hentries
    · cases hbuilt.symm.trans (hrefuses hfirst)
  · rcases compatible_or_first_clash kind entries with hentries | ⟨clash, hfirst⟩
    · obtain ⟨r, hbuilt⟩ := htakes hentries
      cases herror.symm.trans hbuilt
    · exact ⟨clash, hfirst, Except.error.inj (herror.symm.trans (hrefuses hfirst))⟩
  · rintro ⟨clash, hfirst, rfl⟩
    exact hrefuses hfirst
  · obtain ⟨find, hfind, hlook⟩ := hfinds hbuilt
    rw [hlook, ← hfind]
    cases find key <;> simp
  · obtain ⟨find, hfind, hlook⟩ := hfinds hbuilt
    rw [hlook, ← find_eq_none_iff (hfind key)]
    cases find key <;> simp [eq_comm]

/-- What holds a registry, and looks entries up in it, does as it should. -/
theorem looks_up_of_registry {β ε : Type} {kind : EntryKind} {build : List α → Except ε β}
    {refusal : Clash → ε} {look : β → Key → Except SpecError α} {missing : Key → SpecError}
    (hold : Registry α → β)
    (hbuild : ∀ entries, build entries = ((Registry.ofList kind entries).map hold).mapError refusal)
    (hlook : ∀ r key, look (hold r) key = (r.find? key).elim (.error (missing key)) .ok) :
    LooksUp kind build refusal look missing := by
  refine looks_up_of_finds (fun hentries => ?_) (fun hfirst => ?_) fun hbuilt => ?_
  · obtain ⟨r, hr⟩ := Registry.exists_of_compatible hentries
    refine ⟨hold r, ?_⟩
    rw [hbuild, Registry.ofList_eq_ok_iff.mpr hr]
    rfl
  · rw [hbuild, Registry.ofList_of_first hfirst]
    rfl
  · rw [hbuild, mapError_eq_ok] at hbuilt
    obtain ⟨r, hr, rfl⟩ := map_eq_ok.mp hbuilt
    obtain rfl := Registry.ofList_eq_ok_iff.mp hr
    exact ⟨r.find?, fun _ _ => Registry.find?_eq_some_iff, hlook r⟩

end Entries

/-- Commands are built and found as they should. -/
theorem commands_look_up :
    LooksUp .command Commands.ofList .clash Registry.command (.notFound .command) := by
  refine looks_up_of_registry id (fun entries => ?_) fun r key => ?_
  · rw [Commands.ofList]
    cases Registry.ofList .command entries <;> rfl
  · rw [Registry.command, id]
    cases r.find? key <;> rfl

/-- The signals of a log group are built and found as they should. -/
theorem signals_look_up (name : String) (id : UInt8) (description : String) :
    LooksUp .logSignal (LogGroup.make name id description)
      (fun clash => .definition name (.signals clash)) LogGroup.signal (.noSignal · name) := by
  refine looks_up_of_registry (LogGroup.mk name id description) (fun entries => ?_) fun r key => ?_
  · rw [LogGroup.make]
    cases Registry.ofList .logSignal entries <;> rfl
  · rw [LogGroup.signal]
    cases r.find? key <;> rfl

/-- Log groups are built and found as they should. -/
theorem groups_look_up :
    LooksUp .logGroup Logs.ofList .clash Registry.group (.notFound .logGroup) := by
  refine looks_up_of_registry id (fun entries => ?_) fun r key => ?_
  · rw [Logs.ofList]
    cases Registry.ofList .logGroup entries <;> rfl
  · rw [Registry.group, id]
    cases r.find? key <;> rfl

/-- Tasks are built and found as they should. -/
theorem tasks_look_up :
    LooksUp .task Tasks.ofList .clash Tasks.task (.notFound .task) := by
  refine looks_up_of_finds (fun hspecs => ?_) Tasks.ofList_of_first fun {_ tasks} hbuilt => ?_
  · obtain ⟨tasks, htasks⟩ := Tasks.exists_of_compatible hspecs
    exact ⟨tasks, Tasks.ofList_eq_ok_iff.mpr htasks⟩
  · obtain rfl := Tasks.ofList_eq_ok_iff.mp hbuilt
    refine ⟨tasks.find?, fun _ _ => Tasks.find?_eq_some_iff, fun key => ?_⟩
    rw [Tasks.task]
    cases tasks.find? key <;> rfl

namespace LogGroup

variable {group : LogGroup} {key : Key}

/-- A key finds the signal of a group that it names. -/
theorem signal_eq_ok_iff {spec : SignalSpec} :
    group.signal key = .ok spec ↔ spec ∈ group.signals.entries ∧ key.Names spec := by
  rw [signal, ← Registry.find?_eq_some_iff]
  cases group.signals.find? key <;> simp

/-- A key that names no signal of a group is told as missing there. -/
theorem signal_eq_error_iff {error : SpecError} : group.signal key = .error error ↔
    (∀ spec ∈ group.signals.entries, ¬key.Names spec) ∧ error = .noSignal key group.name := by
  rw [signal, ← Registry.find?_eq_none_iff]
  cases group.signals.find? key <;> simp [eq_comm]

end LogGroup

namespace Registry

variable {logs : Logs} {first second : Key}

/-- Two keys find a group and a signal of it. -/
theorem signal_eq_ok_iff {group : LogGroup} {spec : SignalSpec} :
    logs.signal first second = .ok (group, spec) ↔
      logs.group first = .ok group ∧ group.signal second = .ok spec := by
  constructor
  · intro h
    obtain ⟨found, hfound, h⟩ := bind_eq_ok.mp h
    obtain ⟨signal, hsignal, h⟩ := bind_eq_ok.mp h
    obtain ⟨rfl, rfl⟩ := Prod.mk.inj (Except.ok.inj h)
    exact ⟨hfound, hsignal⟩
  · rintro ⟨hfound, hsignal⟩
    exact bind_eq_ok.mpr ⟨group, hfound, bind_eq_ok.mpr ⟨spec, hsignal, rfl⟩⟩

/-- The first key fails as it does for groups, and the second as it does in the group. -/
theorem signal_eq_error_iff {error : SpecError} :
    logs.signal first second = .error error ↔ logs.group first = .error error ∨
      ∃ group, logs.group first = .ok group ∧ group.signal second = .error error := by
  have hlast : ∀ group : LogGroup,
      (do let spec ← group.signal second; pure (group, spec)) = .error error ↔
        group.signal second = .error error := fun group => by
    cases group.signal second <;> simp [bind, Except.bind, pure, Except.pure]
  rw [signal, bind_eq_error]
  simp only [hlast]

end Registry

/-- Commands, the signals of a log group, log groups and tasks are accepted if their ids differ and
their names differ by more than the case of ASCII letters. Else the first that clashes with an
earlier one is refused; for signals the error stands in the error of their group. A key gives the
entry that it names, or is not found if it names none. With two keys a group is found, and then a
signal in it. -/
theorem registries_look_up :
    LooksUp .command Commands.ofList .clash Registry.command (.notFound .command) ∧
    (∀ name id description, LooksUp .logSignal (LogGroup.make name id description)
      (fun clash => .definition name (.signals clash)) LogGroup.signal
      (fun key => .noSignal key name)) ∧
    (∀ name clash, (SpecError.definition name (.signals clash)).message =
      s!"'{name}': {clash.message}") ∧
    LooksUp .logGroup Logs.ofList .clash Registry.group (.notFound .logGroup) ∧
    LooksUp .task Tasks.ofList .clash Tasks.task (.notFound .task) ∧
    ∀ groups logs, Logs.ofList groups = .ok logs → ∀ first second,
      (∀ group spec, logs.signal first second = .ok (group, spec) ↔
        (group ∈ groups ∧ first.Names group) ∧
          spec ∈ group.signals.entries ∧ second.Names spec) ∧
      ∀ error, logs.signal first second = .error error ↔
        (∀ group ∈ groups, ¬first.Names group) ∧ error = .notFound .logGroup first ∨
        ∃ group ∈ groups, first.Names group ∧
          (∀ spec ∈ group.signals.entries, ¬second.Names spec) ∧
            error = .noSignal second group.name := by
  refine ⟨commands_look_up, signals_look_up, fun _ _ => rfl, groups_look_up, tasks_look_up, ?_⟩
  intro groups logs hlogs first second
  have hfinds := groups_look_up.finds hlogs first
  have hmisses := groups_look_up.misses hlogs first
  refine ⟨fun group spec => ?_, fun error => ?_⟩
  · rw [← hfinds, ← LogGroup.signal_eq_ok_iff, Registry.signal_eq_ok_iff]
  · rw [← hmisses, Registry.signal_eq_error_iff]
    simp only [hfinds, LogGroup.signal_eq_error_iff, and_assoc]

end GroundLink
