import Std.Data.TreeMap

/-!
# Registries

A registry holds entries with distinct ids and distinct names, and finds an entry by either. Names
are the same if they differ only in the case of ASCII letters. Entries are not searched for: an
index leads from a folded name or an id to a position. `Registry.ofList` builds the index entry by
entry, or names the first entry that clashes with an earlier one.
-/

namespace GroundLink

/-- What looks up an entry. -/
inductive Key where
  | name (name : String)
  | id (id : UInt32)
deriving DecidableEq, Repr

/-- A key in words. -/
def Key.text : Key → String
  | .name wanted => s!"'{wanted}'"
  | .id number => s!"id {number.toNat}"

/-- The form of a name in which names are compared. -/
def foldName (name : String) : String :=
  name.toLower

/-- What the entries of a registry are. -/
inductive EntryKind where
  | command
  | logGroup
  | logSignal
  | task
deriving DecidableEq, Repr

/-- The kind in words. -/
def EntryKind.text : EntryKind → String
  | command => "command"
  | logGroup => "log group"
  | logSignal => "log signal"
  | task => "task"

/-- A thing with a name and an id. -/
class Entry (α : Type) where
  name : α → String
  id : α → Nat

/-- Two entries that cannot stand in one registry. -/
inductive Clash where
  | duplicateId (kind : EntryKind) (id : Nat) (first second : String)
  | duplicateName (kind : EntryKind) (name : String)
deriving DecidableEq, Repr

/-- The clash in words. -/
def Clash.message : Clash → String
  | duplicateId kind id first second =>
    s!"duplicate {kind.text} id {id}: '{first}' and '{second}'"
  | duplicateName kind name => s!"duplicate {kind.text} name '{name}'"

/-- Where the entries of a list are: their positions by folded name and by id. -/
structure NameIdIndex where
  byName : Std.TreeMap String Nat
  byId : Std.TreeMap Nat Nat

namespace NameIdIndex

/-- The index of no entries. -/
def empty : NameIdIndex :=
  ⟨∅, ∅⟩

/-- Index entries behind others, whose names are given. This ends at the first that clashes with one
before it. A clash of ids goes before a clash of names. -/
def extend {α : Type} [Entry α] (kind : EntryKind) (index : NameIdIndex) (names : List String) :
    List α → Except Clash NameIdIndex
  | [] => .ok index
  | entry :: rest =>
    match index.byId[Entry.id entry]? with
    | some previous =>
      .error (.duplicateId kind (Entry.id entry) (names.getD previous "") (Entry.name entry))
    | none =>
      let (taken, byName) :=
        index.byName.containsThenInsert (foldName (Entry.name entry)) names.length
      if taken then .error (.duplicateName kind (Entry.name entry))
      else
        extend kind ⟨byName, index.byId.insert (Entry.id entry) names.length⟩
          (names ++ [Entry.name entry]) rest

/-- The position of the entry that a key names. -/
def find? (index : NameIdIndex) (key : Key) : Option Nat :=
  match key with
  | .name name => index.byName[foldName name]?
  | .id id => index.byId[id.toNat]?

end NameIdIndex

/-- Entries with distinct ids and distinct names, in the order of their definition, and their
index. -/
structure Registry (α : Type) [Entry α] where
  entries : List α
  index : NameIdIndex
  /-- The index is that of the entries, whatever they are called in the words for a clash. -/
  built : ∃ kind, NameIdIndex.empty.extend kind [] entries = .ok index

namespace Registry

variable {α : Type} [Entry α]

/-- The registry of some entries. -/
def ofList (kind : EntryKind) (entries : List α) : Except Clash (Registry α) :=
  match h : NameIdIndex.empty.extend kind [] entries with
  | .error clash => .error clash
  | .ok index => .ok ⟨entries, index, kind, h⟩

/-- The registry without entries. -/
def empty : Registry α :=
  ⟨[], .empty, .command, rfl⟩

/-- The entry that a key names. -/
def find? (registry : Registry α) (key : Key) : Option α :=
  (registry.index.find? key).bind (registry.entries[·]?)

/-- The number of entries. -/
def size (registry : Registry α) : Nat :=
  registry.entries.length

end Registry

end GroundLink
