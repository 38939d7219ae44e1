import GroundLink.Proofs.Except
import GroundLink.Registry.Basic
import Mathlib.Data.List.Nodup

/-!
# Entries that go together

Entries can stand in one registry if they are `Compatible` two by two: if their ids differ, and
their names by more than the case of ASCII letters. `FirstClash` says what is wrong with other
entries, by the first one that does not go with those before it; `Key.Names` says which entries a
key is for. None of them knows how a registry is built or searched.
-/

namespace GroundLink

/-! ## Names -/

/-- Whether characters are the same, or one is the capital ASCII letter of the other. -/
def SameLetter (c d : Char) : Prop :=
  c = d ∨ c.isUpper ∧ d.toNat = c.toNat + 32 ∨ d.isUpper ∧ c.toNat = d.toNat + 32

/-- Whether names are the same up to the case of ASCII letters. -/
def SameName (first second : String) : Prop :=
  List.Forall₂ SameLetter first.toList second.toList

instance : DecidableRel SameLetter := fun c d =>
  inferInstanceAs (Decidable (c = d ∨ c.isUpper ∧ d.toNat = c.toNat + 32 ∨
    d.isUpper ∧ c.toNat = d.toNat + 32))

instance : DecidableRel SameName := fun first second =>
  inferInstanceAs (Decidable (List.Forall₂ SameLetter first.toList second.toList))

/-- The capital letters stand between 65 and 90. -/
theorem isUpper_iff {c : Char} : c.isUpper = true ↔ 65 ≤ c.toNat ∧ c.toNat ≤ 90 := by
  show decide (c.val ≥ 'A'.val ∧ c.val ≤ 'Z'.val) = true ↔ _
  rw [decide_eq_true_iff, ge_iff_le, UInt32.le_iff_toNat_le, UInt32.le_iff_toNat_le]
  exact Iff.rfl

/-- A small letter stands 32 places behind its capital letter. -/
theorem toNat_toLower (c : Char) :
    c.toLower.toNat = if c.isUpper = true then c.toNat + 32 else c.toNat := by
  show (if h : c.val ≥ 'A'.val ∧ c.val ≤ 'Z'.val then _ else c : Char).toNat = _
  by_cases hupper : c.isUpper = true
  · have hbound := isUpper_iff.mp hupper
    have hrange : c.val ≥ 'A'.val ∧ c.val ≤ 'Z'.val := of_decide_eq_true hupper
    rw [if_pos hupper, dif_pos hrange]
    show (c.val + 32).toNat = c.val.toNat + 32
    have hlt : c.val.toNat + 32 < 2 ^ 32 := Nat.lt_of_le_of_lt (Nat.add_le_add_right hbound.2 32)
      (by decide)
    rw [UInt32.toNat_add]
    exact Nat.mod_eq_of_lt hlt
  · have hrange : ¬(c.val ≥ 'A'.val ∧ c.val ≤ 'Z'.val) := fun h => hupper (decide_eq_true h)
    rw [if_neg hupper, dif_neg hrange]

/-- Characters have one small letter if they are the same up to case. -/
theorem toLower_eq_iff (c d : Char) : c.toLower = d.toLower ↔ SameLetter c d := by
  rw [← Char.toNat_inj, toNat_toLower, toNat_toLower, SameLetter, ← Char.toNat_inj]
  simp only [isUpper_iff]
  split <;> split <;> omega

/-- Texts are the same up to letter case if they have the same small letters. -/
theorem forall₂_sameLetter_iff {first second : List Char} :
    List.Forall₂ SameLetter first second ↔
      first.map Char.toLower = second.map Char.toLower := by
  rw [← List.forall₂_eq_eq_eq, List.forall₂_map_left_iff, List.forall₂_map_right_iff]
  simp only [toLower_eq_iff]

/-- Names have one folded form if they are the same up to case. -/
theorem foldName_eq_iff (first second : String) :
    foldName first = foldName second ↔ SameName first second := by
  show first.map Char.toLower = second.map Char.toLower ↔ SameName first second
  rw [SameName, forall₂_sameLetter_iff, ← String.toList_map, ← String.toList_map, String.toList_inj]

/-! ## Entries that go together -/

section Entries

variable {α : Type} [Entry α]

/-- Whether a key is for an entry. -/
def Key.Names (key : Key) (entry : α) : Prop :=
  match key with
  | .name wanted => SameName (Entry.name entry) wanted
  | .id number => Entry.id entry = number.toNat

/-- Whether two entries can stand in one registry. -/
def Compatible (first second : α) : Prop :=
  Entry.id first ≠ Entry.id second ∧ ¬SameName (Entry.name first) (Entry.name second)

instance : DecidableRel (Compatible (α := α)) := fun first second =>
  inferInstanceAs (Decidable
    (Entry.id first ≠ Entry.id second ∧ ¬SameName (Entry.name first) (Entry.name second)))

/-- What is wrong with an entry that comes after others. A clash of ids goes first. -/
inductive ClashesWith (kind : EntryKind) (before : List α) (entry : α) : Clash → Prop
  | id {other : α} (hother : other ∈ before) (hid : Entry.id other = Entry.id entry) :
      ClashesWith kind before entry
        (.duplicateId kind (Entry.id entry) (Entry.name other) (Entry.name entry))
  | name {other : α} (hother : other ∈ before)
      (hname : SameName (Entry.name other) (Entry.name entry))
      (hids : ∀ other ∈ before, Entry.id other ≠ Entry.id entry) :
      ClashesWith kind before entry (.duplicateName kind (Entry.name entry))

/-- What is wrong with the first of some entries that does not go with those before it. -/
def FirstClash (kind : EntryKind) (entries : List α) (clash : Clash) : Prop :=
  ∃ before entry after, entries = before ++ entry :: after ∧ before.Pairwise Compatible ∧
    ClashesWith kind before entry clash

variable {kind : EntryKind} {before entries : List α} {entry : α} {clash : Clash}

/-- Ids and names are distinct if entries are compatible two by two. -/
theorem pairwise_compatible_iff : entries.Pairwise Compatible ↔
    (entries.map Entry.id).Nodup ∧
      (entries.map fun entry => foldName (Entry.name entry)).Nodup := by
  rw [List.Nodup, List.Nodup, List.pairwise_map, List.pairwise_map, ← List.pairwise_and_iff]
  simp only [ne_eq, foldName_eq_iff]
  rfl

/-- An entry goes with those before it, unless something is wrong with it. -/
theorem compatible_or_clashes (kind : EntryKind) (before : List α) (entry : α) :
    (∀ other ∈ before, Compatible other entry) ∨ ∃ clash, ClashesWith kind before entry clash := by
  by_cases hid : ∃ other ∈ before, Entry.id other = Entry.id entry
  · obtain ⟨other, hother, hid⟩ := hid
    exact .inr ⟨_, .id hother hid⟩
  · have hids : ∀ other ∈ before, Entry.id other ≠ Entry.id entry :=
      fun other hother heq => hid ⟨other, hother, heq⟩
    by_cases hname : ∃ other ∈ before, SameName (Entry.name other) (Entry.name entry)
    · obtain ⟨other, hother, hname⟩ := hname
      exact .inr ⟨_, .name hother hname hids⟩
    · exact .inl fun other hother => ⟨hids other hother, fun hsame => hname ⟨other, hother, hsame⟩⟩

/-- A list of entries that are not all compatible has a first clash. -/
theorem compatible_or_first_clash (kind : EntryKind) (entries : List α) :
    entries.Pairwise Compatible ∨ ∃ clash, FirstClash kind entries clash := by
  refine good_or_first_bad List.Pairwise.nil (fun before entry hbefore => ?_) entries
  refine (compatible_or_clashes kind before entry).imp_left fun hentry => ?_
  refine List.pairwise_append.mpr ⟨hbefore, List.pairwise_singleton _ _, fun other hother => ?_⟩
  intro last hlast
  rw [List.mem_singleton.mp hlast]
  exact hentry other hother

end Entries

end GroundLink
