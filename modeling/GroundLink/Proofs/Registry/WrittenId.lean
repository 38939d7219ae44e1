import GroundLink.Proofs.Field.Integer
import GroundLink.Proofs.Registry
import GroundLink.Registry.Definition

/-!
# Ids in definitions

An id is written as a number, or as a text with the digits of one. `WrittenId.Denotes` says which
number that is, without the reader of ids; read it first. `resolve_eq_ok_iff` and `resolve_of_gt`
say that an id is taken for the number that it denotes, and refused above the limit of its kind.

The number then becomes a word of 16 or 8 bits, or one of the 32 bits of a mask. `KeepsIds` says
what a way to build definitions should make of ids, and `ids_are_kept` that it holds of commands,
log groups, signals and tasks: no id is cut off, and the notation does not matter.
-/

namespace GroundLink

namespace Numeral

/-- Digits that write a number, behind at most a plus sign. -/
inductive Count (base : Nat) : List Char → Nat → Prop
  | bare {text : List Char} {n : Nat} (h : Writes base text n) : Count base text n
  | plus {text : List Char} {n : Nat} (h : Writes base text n) : Count base ('+' :: text) n

variable {base n m : Nat} {text : List Char}

/-- A count is a numeral with a sign that is no minus sign. -/
theorem count_iff : Count base text n ↔ WithSign (Writes base) text n ∧ text.head? ≠ some '-' := by
  constructor
  · intro h
    cases h with
    | bare h =>
        refine ⟨.bare h, fun hhead => ?_⟩
        obtain ⟨rest, rfl⟩ := List.head?_eq_some_iff.mp hhead
        exact h.not_sign.2 rfl
    | plus h => exact ⟨.plus h, nofun⟩
  · rintro ⟨hsigned, hhead⟩
    generalize hvalue : (n : Int) = value at hsigned
    cases hsigned with
    | bare h => exact .bare (Int.ofNat.inj hvalue ▸ h)
    | plus h => exact .plus (Int.ofNat.inj hvalue ▸ h)
    | minus h => exact absurd rfl hhead

/-- Digits write one number: a reader with a bound that is high enough gives it. -/
theorem Writes.unique (hbase : 0 < base) (hletters : base ≤ 36) (h : Writes base text n)
    (h' : Writes base text m) : n = m := by
  have hread {k : Nat} (hk : Writes base text k) (hle : k ≤ max n m) :
      readUp base (max n m : Nat) 0 text = .ok k :=
    (readUp_zero_eq_ok_iff hbase hletters hk.1).mpr ⟨hk, Int.ofNat_le.mpr hle⟩
  exact Except.ok.inj
    ((hread h (Nat.le_max_left n m)).symm.trans (hread h' (Nat.le_max_right n m)))

/-- Digits with or without a plus sign write one number. -/
theorem Count.unique (hbase : 0 < base) (hletters : base ≤ 36) (h : Count base text n)
    (h' : Count base text m) : n = m := by
  cases h with
  | bare h =>
      cases h' with
      | bare h' => exact h.unique hbase hletters h'
      | plus h' => exact absurd rfl h.not_sign.1
  | plus h =>
      cases h' with
      | bare h' => exact absurd rfl h'.not_sign.1
      | plus h' => exact h.unique hbase hletters h'

/-- A mark tells hexadecimal digits from decimal ones. -/
theorem count_marked_iff {mark : Char} (hmark : mark = 'x' ∨ mark = 'X') :
    WithMark Count ('0' :: mark :: text) n ↔ Count 16 text n := by
  refine ⟨fun h => ?_, .hexadecimal hmark⟩
  cases h with
  | decimal h => exact absurd (count_iff.mp h).1 (not_writes_mark hmark)
  | hexadecimal _ h => exact h

/-- So do marked digits. -/
theorem WithMark.count_unique (h : WithMark Count text n) (h' : WithMark Count text m) : n = m := by
  cases h with
  | decimal h =>
      cases h' with
      | decimal h' => exact h.unique (by decide) (by decide) h'
      | hexadecimal hmark _ => exact absurd (count_iff.mp h).1 (not_writes_mark hmark)
  | hexadecimal hmark h =>
      exact h.unique (by decide) (by decide) ((count_marked_iff hmark).mp h')

/-- All characters of a count are visible. -/
theorem WithMark.count_visible (h : WithMark Count text n) : Text.Visible text := by
  have hdigits {base n : Nat} {text : List Char} (hbase : base ≤ 36) (h : Count base text n) :
      Text.Visible text := by
    have hwrites {text : List Char} (h : Writes base text n) : Text.Visible text := by
      intro c hc
      obtain ⟨value, hvalue, hcode⟩ := h.exists_digit c hc
      omega
    cases h with
    | bare h => exact hwrites h
    | plus h => exact List.forall_mem_cons.mpr ⟨by decide, hwrites h⟩
  cases h with
  | decimal h => exact hdigits (by decide) h
  | @hexadecimal _ mark _ hmark h =>
      have hfront : Text.Visible ['0', mark] := by rcases hmark with rfl | rfl <;> decide
      exact hfront.append (hdigits (by decide) h)

end Numeral

namespace WrittenId

open Numeral

/-- What an id stands for: a number, or in a text, maybe with blanks around it, the count that is
written in decimal or in hexadecimal. -/
inductive Denotes : WrittenId → Nat → Prop
  | number (n : Nat) : Denotes (.number n) n
  | text {written : String} {before numeral behind : List Char} {n : Nat}
      (hbefore : Text.Blanks before) (hbehind : Text.Blanks behind)
      (hwritten : written.toList = before ++ numeral ++ behind)
      (h : WithMark Count numeral n) : Denotes (.text written) n

variable {written : WrittenId} {name : String} {limit n m : Nat}

/-- Blanks are cut before the count is read. -/
theorem denotes_text_iff {written : String} :
    Denotes (.text written) n ↔ WithMark Count (Text.trim written.toList) n := by
  constructor
  · intro h
    cases h with
    | text hbefore hbehind hwritten h =>
        rwa [hwritten, Text.trim_between hbefore hbehind, Text.trim_of_visible h.count_visible]
  · intro h
    obtain ⟨before, hbefore, hfront⟩ := Text.exists_trimStart written.toList
    obtain ⟨behind, hbehind, hback⟩ := Text.exists_trimEnd (Text.trimStart written.toList)
    refine .text hbefore hbehind ?_ h
    rw [List.append_assoc, Text.trim, hback, hfront]

/-- An id denotes one number at most. -/
theorem Denotes.unique (h : written.Denotes n) (h' : written.Denotes m) : n = m := by
  cases h with
  | number => cases h' with | number => rfl
  | text hbefore hbehind hwritten h =>
      exact (denotes_text_iff.mp (.text hbefore hbehind hwritten h)).count_unique
        (denotes_text_iff.mp h')

/-- A number may be written in decimal or in hexadecimal digits, with blanks around them. -/
theorem denotes_digits {before digits behind : List Char} (hbefore : Text.Blanks before)
    (hbehind : Text.Blanks behind) :
    (Writes 10 digits n → Denotes (.text (String.ofList (before ++ digits ++ behind))) n) ∧
      ∀ mark, mark = 'x' ∨ mark = 'X' → Writes 16 digits n →
        Denotes (.text (String.ofList (before ++ '0' :: mark :: digits ++ behind))) n :=
  ⟨fun h => .text hbefore hbehind String.toList_ofList (.decimal (.bare h)),
    fun _ hmark h => .text hbefore hbehind String.toList_ofList (.hexadecimal hmark (.bare h))⟩

/-! ## The reader -/

/-- A text is read as the count that is written in it, if it fits 64 bits. -/
theorem numberOf?_eq_some_iff {written : String} :
    numberOf? written = some n ↔ WithMark Count (Text.trim written.toList) n ∧ n < 2 ^ 64 := by
  have hread {base : Nat} {digits : List Char} (hbase : 0 < base) (hletters : base ≤ 36) :
      (readUnsigned base 64 digits).toOption = some n ↔ Count base digits n ∧ n < 2 ^ 64 := by
    rw [count_iff, and_assoc, ← readUnsigned_eq_ok_iff hbase hletters]
    cases readUnsigned base 64 digits <;> simp [Except.toOption]
  unfold numberOf?
  split
  case h_1 digits htrim =>
    rw [htrim, hread (by decide) (by decide), count_marked_iff (.inl rfl)]
  case h_2 digits htrim =>
    rw [htrim, hread (by decide) (by decide), count_marked_iff (.inr rfl)]
  case h_3 hlower hupper =>
    rw [hread (by decide) (by decide)]
    refine and_congr_left fun _ => ⟨.decimal, fun h => ?_⟩
    generalize Text.trim written.toList = digits at h hlower hupper
    cases h with
    | decimal h => exact h
    | hexadecimal hmark h =>
        rcases hmark with rfl | rfl
        · exact absurd rfl (hlower _)
        · exact absurd rfl (hupper _)

/-- An id is taken for the number that it denotes, up to the limit. -/
theorem resolve_eq_ok_iff (hlimit : limit < 2 ^ 64) :
    written.resolve name limit = .ok n ↔ written.Denotes n ∧ n ≤ limit := by
  cases written with
  | number k =>
      unfold resolve
      dsimp only
      constructor
      · intro h
        split at h
        case isTrue hle =>
          obtain rfl := Except.ok.inj h
          exact ⟨.number k, hle⟩
        case isFalse => cases h
      · rintro ⟨hnumber, hle⟩
        cases hnumber
        exact if_pos hle
  | text t =>
      rw [denotes_text_iff]
      unfold resolve
      dsimp only
      constructor
      · intro h
        split at h
        case h_1 k hk =>
          split at h
          case isTrue hle =>
            obtain rfl := Except.ok.inj h
            exact ⟨(numberOf?_eq_some_iff.mp hk).1, hle⟩
          case isFalse => cases h
        case h_2 => cases h
      · rintro ⟨hwritten, hle⟩
        rw [numberOf?_eq_some_iff.mpr ⟨hwritten, Nat.lt_of_le_of_lt hle hlimit⟩]
        exact if_pos hle

/-- An id that is not taken for a number is the fault, as it is written. -/
theorem resolve_cases (written : WrittenId) (name : String) (limit : Nat) :
    (∃ n, written.resolve name limit = .ok n) ∨
      written.resolve name limit = .error (.invalidId name written.display) := by
  unfold resolve
  dsimp only
  split
  case h_1 k hk =>
    by_cases hle : k ≤ limit
    · exact .inl ⟨k, if_pos hle⟩
    · exact .inr (if_neg hle)
  case h_2 => exact .inr rfl

/-- An id above the limit is refused, however large it is. -/
theorem resolve_of_gt (hlimit : limit < 2 ^ 64) (h : written.Denotes n) (hgt : limit < n) :
    written.resolve name limit = .error (.invalidId name written.display) := by
  refine (resolve_cases written name limit).resolve_left ?_
  rintro ⟨m, hm⟩
  obtain ⟨hdenotes, hle⟩ := (resolve_eq_ok_iff hlimit).mp hm
  obtain rfl := h.unique hdenotes
  exact absurd hgt (Nat.not_lt.mpr hle)

/-! ## Documents -/

/-- An integer of a document that is taken as a whole number fits 64 bits. -/
theorem lt_of_ofInt {k m : Int} (h : Yaml.Meaning.ofInt k = .whole m) : m < 2 ^ 64 := by
  unfold Yaml.Meaning.ofInt at h
  split at h
  case isTrue hrange =>
    cases h
    exact hrange.2
  case isFalse => cases h

/-- A plain scalar is taken for a whole number only if that fits 64 bits. -/
theorem lt_of_ofPlain {text : String} {m : Int} (h : Yaml.Meaning.ofPlain text = .whole m) :
    m < 2 ^ 64 := by
  unfold Yaml.Meaning.ofPlain at h
  split at h
  case isTrue => cases h
  case isFalse =>
    split at h
    case h_1 => exact lt_of_ofInt h
    case h_2 => split at h <;> cases h

/-- The same holds of a scalar with any tag and any style. -/
theorem lt_of_ofScalar? {tag : Option Yaml.Tag} {style : Yaml.Style} {text : String} {m : Int}
    (h : Yaml.Meaning.ofScalar? tag style text = some (.whole m)) : m < 2 ^ 64 := by
  have huntagged
      (h : (if style = .plain then Yaml.Meaning.ofPlain text else .text text) = .whole m) :
      m < 2 ^ 64 := by
    split at h
    case isTrue => exact lt_of_ofPlain h
    case isFalse => cases h
  unfold Yaml.Meaning.ofScalar? at h
  dsimp only at h
  split at h
  case h_1 => exact huntagged (Option.some.inj h)
  case h_2 =>
    split at h
    case isTrue => cases h
    case isFalse =>
      split at h
      case isTrue =>
        obtain ⟨k, -, hk⟩ := Option.map_eq_some_iff.mp h
        exact lt_of_ofInt hk
      case isFalse =>
        split at h
        case isTrue => cases h
        case isFalse =>
          split at h
          case isTrue => exact huntagged (Option.some.inj h)
          case isFalse => cases h

/-- A whole number in a document is an id only if it fits 64 bits. -/
theorem lt_of_ofDocument? {d : Document} (h : ofDocument? d = some (.number n)) : n < 2 ^ 64 := by
  have hwhole {m : Int} (h : d.meaning? = some (.whole m)) : m < 2 ^ 64 := by
    unfold Document.meaning? at h
    split at h
    case h_1 => exact lt_of_ofScalar? h
    case h_3 => exact lt_of_ofInt (Option.some.inj h)
    case h_2 | h_4 | h_5 => cases h
  unfold ofDocument? at h
  split at h
  case h_1 m hm =>
    have hlt := hwhole hm
    split at h
    case isTrue hpositive =>
      cases h
      omega
    case isFalse => cases h
  case h_2 | h_3 => cases h

end WrittenId

/-! ## All definitions -/

/-- A way to build definitions makes of their ids what it should. An id up to `limit` is kept, and
its notation makes no difference to what is built; `InOrder` is what the other parts have to be. An
id above it is refused as `refusal` says. -/
structure KeepsIds {β ε : Type} (limit : Nat) (build : WrittenId → Except ε β) (id : β → Nat)
    (InOrder : Prop) (refusal : WrittenId → Nat → ε) : Prop where
  accepts : ∀ {written n}, written.Denotes n → n ≤ limit →
    ((∃ spec, build written = .ok spec) ↔ InOrder)
  keeps : ∀ {written spec}, build written = .ok spec → ∀ n, written.Denotes n ↔ n = id spec
  agrees : ∀ {written other n}, written.Denotes n → other.Denotes n → n ≤ limit →
    build written = build other
  refuses : ∀ {written n}, written.Denotes n → limit < n →
    build written = .error (refusal written n)

/-- A definition is built as it should be if first its id is read, up to a bound of 64 bits, and
then the number is used for what it is, up to the limit of its kind. -/
theorem keeps_ids_of_steps {β ε : Type} {limit bound : Nat} {build : WrittenId → Except ε β}
    {id : β → Nat} {InOrder : Prop} {refusal : WrittenId → Nat → ε} (name : String)
    (wrap : SpecError → ε) (rest : Nat → Except ε β) (hlimit : limit ≤ bound)
    (hbound : bound < 2 ^ 64)
    (hbuild : ∀ written, build written = (written.resolve name bound).mapError wrap >>= rest)
    (haccepts : ∀ n ≤ limit, (∃ spec, rest n = .ok spec) ↔ InOrder)
    (hkeeps : ∀ n ≤ bound, ∀ spec, rest n = .ok spec → id spec = n)
    (hrefuses : ∀ written n, limit < n → n ≤ bound → rest n = .error (refusal written n))
    (hunread : ∀ written n, bound < n →
      refusal written n = wrap (.invalidId name written.display)) :
    KeepsIds limit build id InOrder refusal := by
  have hread {written : WrittenId} {n : Nat} (h : written.Denotes n) (hle : n ≤ bound) :
      build written = rest n := by
    rw [hbuild, (WrittenId.resolve_eq_ok_iff hbound).mpr ⟨h, hle⟩]
    rfl
  have hfails {written : WrittenId}
      (h : written.resolve name bound = .error (.invalidId name written.display)) :
      build written = .error (wrap (.invalidId name written.display)) := by
    rw [hbuild, h]
    rfl
  refine ⟨fun h hle => ?_, fun {written spec} h n => ?_, fun h h' hle => ?_,
    fun {written n} h hgt => ?_⟩
  · rw [hread h (Nat.le_trans hle hlimit)]
    exact haccepts _ hle
  · rcases WrittenId.resolve_cases written name bound with ⟨m, hm⟩ | herror
    · obtain ⟨hdenotes, hle⟩ := (WrittenId.resolve_eq_ok_iff hbound).mp hm
      rw [hread hdenotes hle] at h
      rw [hkeeps m hle spec h]
      exact ⟨fun h => h.unique hdenotes, fun heq => heq ▸ hdenotes⟩
    · exact nomatch h.symm.trans (hfails herror)
  · have hwithin := Nat.le_trans hle hlimit
    rw [hread h hwithin, hread h' hwithin]
  · rcases Nat.lt_or_ge bound n with hlt | hle
    · rw [hunread written n hlt]
      exact hfails (WrittenId.resolve_of_gt hbound h hlt)
    · rw [hread h hle]
      exact hrefuses written n hgt hle

/-- Commands keep their ids up to 16 bits, if their arguments and their response are in order. -/
theorem commands_keep_ids (w : WrittenCommand) (name : String) (order : ByteOrder) :
    KeepsIds 65535 (fun id => WrittenCommand.build { w with id } name order) (·.id.toNat)
      ((∃ args, w.args.build name order = .ok args) ∧
        ∃ response, WrittenResponse.build w.response name order = .ok response)
      (fun id _ => .invalidId name id.display) := by
  refine keeps_ids_of_steps name id
    (fun n => do
      let args ← w.args.build name order
      let response ← WrittenResponse.build w.response name order
      pure ⟨name, UInt16.ofNat n, Text.trimmed w.description, args, response⟩)
    (Nat.le_refl _) (by decide) (fun written => ?_) (fun n _ => ?_) (fun n hle spec h => ?_)
    (fun _ n hgt hle => absurd hle (Nat.not_le.mpr hgt)) (fun _ _ _ => rfl)
  · show (written.resolve name 65535 >>= _) = _
    cases written.resolve name 65535 <;> rfl
  · constructor
    · rintro ⟨spec, h⟩
      obtain ⟨args, hargs, h⟩ := bind_eq_ok.mp h
      obtain ⟨response, hresponse, -⟩ := bind_eq_ok.mp h
      exact ⟨⟨args, hargs⟩, response, hresponse⟩
    · rintro ⟨⟨args, hargs⟩, response, hresponse⟩
      exact ⟨_, bind_eq_ok.mpr ⟨args, hargs, bind_eq_ok.mpr ⟨response, hresponse, rfl⟩⟩⟩
  · obtain ⟨args, -, h⟩ := bind_eq_ok.mp h
    obtain ⟨response, -, h⟩ := bind_eq_ok.mp h
    obtain rfl := Except.ok.inj h
    exact UInt16.toNat_ofNat_of_lt' (Nat.lt_succ_of_le hle)

/-- Log groups keep their ids up to 8 bits, if their signals are in order and compatible. -/
theorem groups_keep_ids (w : WrittenGroup) (name : String) (order : ByteOrder) :
    KeepsIds 255 (fun id => WrittenGroup.build { w with id } name order) (·.id.toNat)
      (∃ signals, w.signals.mapM (fun (signal, definition) => definition.build name signal order) =
        .ok signals ∧ signals.Pairwise Compatible)
      (fun id _ => .invalidId name id.display) := by
  refine keeps_ids_of_steps name id
    (fun n => do
      let signals ← w.signals.mapM fun (signal, definition) => definition.build name signal order
      LogGroup.make name (UInt8.ofNat n) (Text.trimmed w.description) signals)
    (Nat.le_refl _) (by decide) (fun written => ?_) (fun n _ => ?_) (fun n hle group h => ?_)
    (fun _ n hgt hle => absurd hle (Nat.not_le.mpr hgt)) (fun _ _ _ => rfl)
  · show (written.resolve name 255 >>= _) = _
    cases written.resolve name 255 <;> rfl
  · have hmakes := (signals_look_up name (UInt8.ofNat n) (Text.trimmed w.description)).accepts
    constructor
    · rintro ⟨group, h⟩
      obtain ⟨signals, hsignals, h⟩ := bind_eq_ok.mp h
      exact ⟨signals, hsignals, (hmakes signals).mp ⟨group, h⟩⟩
    · rintro ⟨signals, hsignals, hcompatible⟩
      obtain ⟨group, hgroup⟩ := (hmakes signals).mpr hcompatible
      exact ⟨group, bind_eq_ok.mpr ⟨signals, hsignals, hgroup⟩⟩
  · obtain ⟨signals, -, h⟩ := bind_eq_ok.mp h
    unfold LogGroup.make at h
    split at h
    case h_1 =>
      obtain rfl := Except.ok.inj h
      exact UInt8.toNat_ofNat_of_lt' (Nat.lt_succ_of_le hle)
    case h_2 => cases h

/-- Signals keep their ids up to 8 bits, if their fields are in order. -/
theorem signals_keep_ids (w : WrittenSignal) (group name : String) (order : ByteOrder) :
    KeepsIds 255 (fun id => WrittenSignal.build { w with id } group name order) (·.id.toNat)
      (∃ data, w.data.build (group ++ "." ++ name) order = .ok data)
      (fun id _ => .invalidId (group ++ "." ++ name) id.display) := by
  refine keeps_ids_of_steps (group ++ "." ++ name) id
    (fun n => do
      let data ← w.data.build (group ++ "." ++ name) order
      pure ⟨name, UInt8.ofNat n, w.level, data⟩)
    (Nat.le_refl _) (by decide) (fun written => ?_) (fun n _ => ?_) (fun n hle spec h => ?_)
    (fun _ n hgt hle => absurd hle (Nat.not_le.mpr hgt)) (fun _ _ _ => rfl)
  · show (written.resolve (group ++ "." ++ name) 255 >>= _) = _
    cases written.resolve (group ++ "." ++ name) 255 <;> rfl
  · constructor
    · rintro ⟨spec, h⟩
      obtain ⟨data, hdata, -⟩ := bind_eq_ok.mp h
      exact ⟨data, hdata⟩
    · rintro ⟨data, hdata⟩
      exact ⟨_, bind_eq_ok.mpr ⟨data, hdata, rfl⟩⟩
  · obtain ⟨data, -, h⟩ := bind_eq_ok.mp h
    obtain rfl := Except.ok.inj h
    exact UInt8.toNat_ofNat_of_lt' (Nat.lt_succ_of_le hle)

/-- Ids of tasks are read up to 64 bits, and then have to number a bit of a mask. -/
theorem tasks_keep_ids (w : WrittenTask) (name : String) :
    KeepsIds 31 (fun id => WrittenTask.build { w with id } name) (·.id.val) (name.length ≤ 21)
      (fun id n => if n < 2 ^ 64 then .task (.idOutOfRange name n 31)
        else .spec (.invalidId name id.display)) := by
  refine keeps_ids_of_steps name LoadError.spec
    (fun n => (TaskSpec.make name n w.stackSize w.priority).mapError .task)
    (show 31 ≤ 2 ^ 64 - 1 by decide) (by decide) (fun written => ?_) (fun n hle => ?_)
    (fun n _ spec h => ?_) (fun _ n hgt hle => ?_) (fun _ n hgt => if_neg (by omega))
  · rfl
  · constructor
    · rintro ⟨spec, h⟩
      rw [TaskSpec.make, dif_pos (show n ≤ TaskSpec.maxId from hle)] at h
      split at h
      case isTrue hname => exact hname
      case isFalse => cases h
    · intro hname
      rw [TaskSpec.make, dif_pos (show n ≤ TaskSpec.maxId from hle),
        dif_pos (show name.length ≤ TaskSpec.maxNameLength from hname)]
      exact ⟨_, rfl⟩
  · unfold TaskSpec.make at h
    split at h
    case isTrue =>
      split at h
      case isTrue =>
        obtain rfl := Except.ok.inj h
        rfl
      case isFalse => cases h
    case isFalse => cases h
  · rw [TaskSpec.make, dif_neg (show ¬n ≤ TaskSpec.maxId from Nat.not_le.mpr hgt),
      if_pos (by omega)]
    rfl

/-- Whether the id of a definition is written as a number, in decimal or in hexadecimal digits, with
blanks around them or not: up to 65535 for commands, 255 for log groups and signals, and 31 for
tasks the same is built, with this number as its id, if all else is in order. A larger id is
refused, that of a task as one out of range as long as it fits 64 bits. -/
theorem ids_are_kept :
    (∀ n, (WrittenId.number n).Denotes n ∧
      ∀ before digits behind, Text.Blanks before → Text.Blanks behind →
        (Numeral.Writes 10 digits n →
          (WrittenId.text (String.ofList (before ++ digits ++ behind))).Denotes n) ∧
        ∀ mark, mark = 'x' ∨ mark = 'X' → Numeral.Writes 16 digits n →
          (WrittenId.text (String.ofList (before ++ '0' :: mark :: digits ++ behind))).Denotes n) ∧
    (∀ d n, WrittenId.ofDocument? d = some (.number n) → n < 2 ^ 64) ∧
    (∀ (w : WrittenCommand) name order,
      KeepsIds 65535 (fun id => WrittenCommand.build { w with id } name order) (·.id.toNat)
        ((∃ args, w.args.build name order = .ok args) ∧
          ∃ response, WrittenResponse.build w.response name order = .ok response)
        (fun id _ => .invalidId name id.display)) ∧
    (∀ (w : WrittenGroup) name order,
      KeepsIds 255 (fun id => WrittenGroup.build { w with id } name order) (·.id.toNat)
        (∃ signals, w.signals.mapM (fun (signal, definition) =>
          definition.build name signal order) = .ok signals ∧ signals.Pairwise Compatible)
        (fun id _ => .invalidId name id.display)) ∧
    (∀ (w : WrittenSignal) group name order,
      KeepsIds 255 (fun id => WrittenSignal.build { w with id } group name order) (·.id.toNat)
        (∃ data, w.data.build (group ++ "." ++ name) order = .ok data)
        (fun id _ => .invalidId (group ++ "." ++ name) id.display)) ∧
    ∀ (w : WrittenTask) name,
      KeepsIds 31 (fun id => WrittenTask.build { w with id } name) (·.id.val) (name.length ≤ 21)
        (fun id n => if n < 2 ^ 64 then .task (.idOutOfRange name n 31)
          else .spec (.invalidId name id.display)) :=
  ⟨fun n => ⟨.number n, fun _ _ _ => WrittenId.denotes_digits⟩,
    fun _ _ => WrittenId.lt_of_ofDocument?, commands_keep_ids, groups_keep_ids, signals_keep_ids,
    tasks_keep_ids⟩

/-- A command is the same with its id in decimal and in hexadecimal between blanks, and holds the
arguments that are written. A larger id is refused, and so is another type of argument. The last bit
of a mask makes a task, and the number behind it does not. -/
theorem ids_are_kept_in_both_notations :
    let mode : WrittenCommand :=
      ⟨.number 42, " Sets the mode. ", [[("mode", "u8")]], some (.word "Raw")⟩
    let named (id : WrittenId) := WrittenCommand.build { mode with id } "mode" .big
    let idle (id : WrittenId) := WrittenTask.build ⟨id, 256, 0⟩ "idle"
    (∃ spec, named (.number 42) = .ok spec ∧ named (.text "\t0X2a ") = .ok spec ∧
      spec.id.toNat = 42 ∧ spec.text = "mode (0x002A) args (mode: u8) -> raw") ∧
    named (.number 65536) = .error (.invalidId "mode" "65536") ∧
    (¬∃ spec,
      WrittenCommand.build { mode with args := [[("mode", "u9")]] } "mode" .big = .ok spec) ∧
    (∃ spec, idle (.number 31) = .ok spec ∧ spec.id.val = 31) ∧
    idle (.number 32) = .error (.task (.idOutOfRange "idle" 32 31)) := by
  intro mode named idle
  obtain ⟨hdenotes, -, hcommands, -, -, htasks⟩ := ids_are_kept
  have hwrites : Numeral.Writes 16 ['2', 'a'] 42 :=
    ⟨by decide, [2, 10], .cons ⟨by decide, by decide⟩ (.cons ⟨by decide, by decide⟩ .nil),
      by decide⟩
  have hblank : (WrittenId.text "\t0X2a ").Denotes 42 :=
    ((hdenotes 42).2 ['\t'] ['2', 'a'] [' '] (List.forall_mem_singleton.mpr rfl)
      (List.forall_mem_singleton.mpr rfl)).2 'X' (.inr rfl) hwrites
  have htold : (named (.number 42)).map CommandSpec.text =
      .ok "mode (0x002A) args (mode: u8) -> raw" := by
    decide +kernel
  have hwrong : (WrittenFields.build [[("mode", "u9")]] "mode" .big).toOption.isSome = false := by
    decide +kernel
  obtain ⟨spec, hspec, htext⟩ := map_eq_ok.mp htold
  have hmode := hcommands mode "mode" .big
  have hidle := htasks ⟨.number 0, 256, 0⟩ "idle"
  obtain ⟨task, htask⟩ := (hidle.accepts (.number 31) (by decide)).mpr (by decide)
  refine ⟨⟨spec, hspec, ?_, ?_, htext⟩, hmode.refuses (.number 65536) (by decide), ?_,
    ⟨task, htask, ((hidle.keeps htask 31).mp (.number 31)).symm⟩,
    hidle.refuses (.number 32) (by decide)⟩
  · exact (hmode.agrees (.number 42) hblank (by decide)).symm.trans hspec
  · exact ((hmode.keeps hspec 42).mp (.number 42)).symm
  · intro hbuilt
    have hother := hcommands { mode with args := [[("mode", "u9")]] } "mode" .big
    obtain ⟨⟨args, hargs⟩, -⟩ := (hother.accepts (.number 42) (by decide)).mp hbuilt
    rw [hargs] at hwrong
    cases hwrong

end GroundLink
