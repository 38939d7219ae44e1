import GroundLink.Field.Kind
import GroundLink.Proofs.Field.Outline
import GroundLink.Proofs.Numeral
import GroundLink.Proofs.Registry
import Mathlib.Logic.Relation

/-!
# Type strings and their spellings

A text `Spells` a kind and dimensions if its outline is a name of the kind, in any letter case, and
a pair of brackets for each dimension with a numeral between. Read `type_strings_round_trip` first.
Its parts follow from `parse_eq_ok_iff`: what is parsed are the spellings with at most two
dimensions.

`Respells` says how a spelling may be changed. `outline_of_respells` shows that no such change
touches the outline, but for letter case.
-/

namespace GroundLink

/-! ## Names of kinds -/

/-- A letter in another case is no more a blank than it was. -/
theorem isBlank_toLower (c : Char) : Text.isBlank c.toLower = Text.isBlank c := by
  by_cases hupper : c.isUpper = true
  case pos =>
    have hbound := isUpper_iff.mp hupper
    have hlower : c.toLower.toNat = c.toNat + 32 := by rw [toNat_toLower, if_pos hupper]
    have hvisible : Text.Visible [c.toLower, c] :=
      List.forall_mem_cons.mpr ⟨by omega, List.forall_mem_singleton.mpr (by omega)⟩
    obtain ⟨hlow, hrest⟩ := List.forall_mem_cons.mp hvisible.not_blank
    have hcapital := List.forall_mem_singleton.mp hrest
    rw [Bool.eq_false_iff.mpr hlow, Bool.eq_false_iff.mpr hcapital]
  case neg =>
    have hsame : c.toLower = c := Char.toNat_inj.mp (by rw [toNat_toLower, if_neg hupper])
    rw [hsame]

/-- Brackets are not letters. -/
theorem SameLetter.eq_of_isBracket {c d : Char} (h : SameLetter c d)
    (hbracket : isBracket c = true ∨ isBracket d = true) : c = d := by
  rw [SameLetter, ← Char.toNat_inj, isUpper_iff, isUpper_iff] at h
  rw [isBracket_iff_code, isBracket_iff_code] at hbracket
  apply Char.toNat_inj.mp
  omega

namespace Kind

/-- The names of a kind. -/
def names : Kind → List String
  | unsigned .one => ["u8", "uint8", "byte"]
  | unsigned .two => ["u16", "uint16"]
  | unsigned .four => ["u32", "uint32"]
  | unsigned .eight => ["u64", "uint64"]
  | signed .one => ["i8", "int8"]
  | signed .two => ["i16", "int16"]
  | signed .four => ["i32", "int32"]
  | signed .eight => ["i64", "int64"]
  | float32 => ["f32", "float"]
  | float64 => ["f64", "double"]
  | bool => ["bool"]
  | timestamp => ["datetime", "time"]
  | bytes => ["bytes", "raw"]
  | text => ["str", "string"]

/-- A text names a kind, in any letter case. -/
def IsNamed (kind : Kind) (text : List Char) : Prop :=
  ∃ name ∈ kind.names, List.Forall₂ SameLetter text name.toList

/-- The name that is printed is one of those that are read. -/
theorem name_mem_names (kind : Kind) : kind.name ∈ kind.names := by
  rcases kind with w | w | _ | _ | _ | _ | _ | _
  · cases w <;> decide
  · cases w <;> decide
  all_goals decide

/-- Names are of digits and small letters. -/
theorem code_of_mem_names {kind : Kind} {name : String} (h : name ∈ kind.names) :
    ∀ c ∈ name.toList, 48 ≤ c.toNat ∧ c.toNat ≤ 57 ∨ 97 ≤ c.toNat ∧ c.toNat ≤ 122 := by
  -- A bounded quantifier over characters would be decided by trying all characters there are.
  have hall : ∀ name ∈ kind.names, name.toList.all (fun c =>
      48 ≤ c.toNat ∧ c.toNat ≤ 57 ∨ 97 ≤ c.toNat ∧ c.toNat ≤ 122) = true := by
    rcases kind with w | w | _ | _ | _ | _ | _ | _
    · cases w <;> decide
    · cases w <;> decide
    all_goals decide
  exact fun c hc => of_decide_eq_true (List.all_eq_true.mp (hall name h) c hc)

/-- Names are in small letters. -/
theorem map_toLower_of_mem_names {kind : Kind} {name : String} (h : name ∈ kind.names) :
    name.toList.map Char.toLower = name.toList := by
  refine (List.map_congr_left fun c hc => ?_).trans (List.map_id _)
  have hcode := code_of_mem_names h c hc
  have hsmall : ¬c.isUpper = true := by rw [isUpper_iff]; omega
  exact Char.toNat_inj.mp (by rw [toNat_toLower, if_neg hsmall, id_eq])

/-- The kind of a tag is found by its lower case. -/
theorem ofTag?_eq_some_iff_mem {tag : String} {kind : Kind} :
    ofTag? tag = some kind ↔ (Text.trimmed tag).toLower ∈ kind.names := by
  constructor
  · intro h
    unfold ofTag? at h
    split at h
    case h_29 => cases h
    all_goals
      rename_i hfold
      cases h
      rw [hfold]
      decide
  · unfold ofTag?
    generalize (Text.trimmed tag).toLower = folded
    revert folded
    rcases kind with w | w | _ | _ | _ | _ | _ | _
    · cases w <;> decide
    · cases w <;> decide
    all_goals decide

/-- A tag stands for the kind that it names. -/
theorem ofTag?_eq_some_iff {tag : String} {kind : Kind} :
    ofTag? tag = some kind ↔ kind.IsNamed (Text.trim tag.toList) := by
  rw [ofTag?_eq_some_iff_mem]
  have hlower : (Text.trimmed tag).toLower.toList = (Text.trim tag.toList).map Char.toLower := by
    show ((Text.trimmed tag).map Char.toLower).toList = _
    rw [String.toList_map, Text.trimmed, String.toList_ofList]
  constructor
  · intro h
    refine ⟨_, h, ?_⟩
    rw [forall₂_sameLetter_iff, map_toLower_of_mem_names h, hlower]
  · rintro ⟨name, hname, hsame⟩
    rw [forall₂_sameLetter_iff, map_toLower_of_mem_names hname, ← hlower,
      String.toList_inj] at hsame
    rwa [hsame]

/-- The case of letters does not matter to what is named. -/
theorem isNamed_congr {first second : List Char}
    (h : first.map Char.toLower = second.map Char.toLower) (kind : Kind) :
    kind.IsNamed first ↔ kind.IsNamed second := by
  simp only [IsNamed, forall₂_sameLetter_iff, h]

/-- A name has no brackets in it. -/
theorem IsNamed.not_isBracket {kind : Kind} {text : List Char} (h : kind.IsNamed text) :
    ∀ c ∈ text, ¬isBracket c = true := by
  obtain ⟨name, hname, hsame⟩ := h
  intro c hc hbracket
  obtain ⟨d, hd, hletter⟩ := exists_of_forall₂ hsame c hc
  obtain rfl := hletter.eq_of_isBracket (.inl hbracket)
  have hcode := code_of_mem_names hname c hd
  rw [isBracket_iff_code] at hbracket
  omega

end Kind

/-! ## Dimensions -/

namespace TypeSpec

/-- A numeral for the length of a dimension. -/
def IsLength (numeral : List Char) (length : UInt64) : Prop :=
  Numeral.WithSign (Numeral.Writes 10) numeral length.toNat ∧ numeral.head? ≠ some '-'

/-- Pieces are pairs of brackets, each with the numeral of a dimension between. -/
inductive IsShape : List (Char × List Char) → List UInt64 → Prop
  | nil : IsShape [] []
  | cons {numeral : List Char} {length : UInt64} {pieces : List (Char × List Char)}
      {shape : List UInt64} (h : IsLength numeral length) (hrest : IsShape pieces shape) :
      IsShape (('[', numeral) :: (']', []) :: pieces) (length :: shape)

/-- Every piece of a shape begins with an opening bracket. -/
theorem IsShape.bracket_eq {bracket : Char} {piece : List Char} {pieces : List (Char × List Char)}
    {shape : List UInt64} (h : IsShape ((bracket, piece) :: pieces) shape) : bracket = '[' := by
  cases h
  rfl

/-- A shape has as many dimensions as opening brackets. -/
theorem IsShape.count_eq {pieces : List (Char × List Char)} {shape : List UInt64}
    (h : IsShape pieces shape) : (pieces.map Prod.fst).count '[' = shape.length := by
  induction h with
  | nil => rfl
  | cons _ _ ih =>
      rw [List.map_cons, List.map_cons, List.count_cons_self, List.count_cons_of_ne (by decide), ih]
      rfl

/-- A length is read exactly if it is one that fits 64 bits. -/
theorem readUnsigned_eq_ok_iff_isLength {numeral : List Char} {n : Nat} :
    Numeral.readUnsigned 10 64 numeral = .ok n ↔
      IsLength numeral (UInt64.ofNat n) ∧ n < 2 ^ 64 := by
  rw [Numeral.readUnsigned_eq_ok_iff (by decide) (by decide), IsLength, ← and_assoc]
  refine and_congr_left fun hlt => ?_
  rw [UInt64.toNat_ofNat_of_lt' hlt]

/-- The characters of a signed numeral are digits, and marks in front of them. -/
theorem code_of_withSign {numeral : List Char} {n : Int}
    (h : Numeral.WithSign (Numeral.Writes 10) numeral n) :
    ∀ c ∈ numeral, 43 ≤ c.toNat ∧ c.toNat ≤ 57 := by
  have hdigits {digits : List Char} {n : Nat} (h : Numeral.Writes 10 digits n) :
      ∀ c ∈ digits, 43 ≤ c.toNat ∧ c.toNat ≤ 57 := by
    intro c hc
    obtain ⟨value, hlt, hcode⟩ := h.exists_digit c hc
    omega
  cases h with
  | bare h => exact hdigits h
  | plus h | minus h => exact List.forall_mem_cons.mpr ⟨by decide, hdigits h⟩

/-- Signs and digits are no brackets. -/
theorem IsLength.not_isBracket {numeral : List Char} {length : UInt64}
    (h : IsLength numeral length) :
    ∀ c ∈ numeral, ¬isBracket c = true := by
  intro c hc hbracket
  have hcode := code_of_withSign h.1 c hc
  rw [isBracket_iff_code] at hbracket
  omega

/-- Signs and digits are no blanks. -/
theorem IsLength.trim_eq {numeral : List Char} {length : UInt64} (h : IsLength numeral length) :
    Text.trim numeral = numeral := by
  refine Text.trim_of_visible fun c hc => ?_
  have hcode := code_of_withSign h.1 c hc
  omega

/-- What is read as a shape is one. -/
theorem isShape_of_readShape {text : List Char} {shape : List UInt64}
    (h : readShape text = .ok shape) :
    (Outline.of text).front = [] ∧ IsShape (Outline.of text).behind shape := by
  fun_induction readShape text generalizing shape
  case case1 =>
    obtain rfl := Except.ok.inj h
    exact ⟨rfl, .nil⟩
  case case4 text hne inner hopen dimension bracket after hclose n hnumeral hshorter ih =>
    obtain ⟨others, hothers, rfl⟩ := map_eq_ok.mp h
    obtain ⟨hfront, hbehind⟩ := ih hothers
    rw [Outline.of_trimEnd] at hfront hbehind
    obtain ⟨hlength, -⟩ := readUnsigned_eq_ok_iff_isLength.mp hnumeral
    have hinner : inner = dimension ++ ']' :: after := by
      have hbracket : bracket = ']' := by
        have hhead := List.head?_dropWhile_not (· != ']') inner
        rw [hclose] at hhead
        simpa using hhead
      rw [← hbracket, ← hclose, List.takeWhile_append_dropWhile]
    have hfree : ∀ c ∈ dimension, ¬isBracket c = true :=
      Outline.not_isBracket_of_trim hlength.not_isBracket
    rw [← Outline.of_trimStart, hopen, hinner, Outline.of_brackets hfree, hfront]
    exact ⟨rfl, .cons hlength hbehind⟩
  all_goals cases h

/-- A dimension is read before the ones behind it. -/
theorem readShape_of_open {text dimension after : List Char} {n : Nat}
    (hopen : Text.trimStart text = '[' :: (dimension ++ ']' :: after))
    (hfree : ∀ c ∈ dimension, ¬isBracket c = true)
    (hnumeral : Numeral.readUnsigned 10 64 (Text.trim dimension) = .ok n) :
    readShape text = (readShape (Text.trimEnd after)).map (UInt64.ofNat n :: ·) := by
  have hne : text ≠ [] := by
    rintro rfl
    cases hopen
  have hkeep : ∀ c ∈ dimension, (c != ']') = true := fun c hc =>
    bne_iff_ne.mpr fun hclose => hfree c hc (isBracket_iff.mpr (.inr hclose))
  have htake : (dimension ++ ']' :: after).takeWhile (· != ']') = dimension := by
    rw [List.takeWhile_append_of_pos hkeep]
    exact List.append_nil dimension
  have hdrop : (dimension ++ ']' :: after).dropWhile (· != ']') = ']' :: after := by
    rw [List.dropWhile_append_of_pos hkeep]
    rfl
  rw [readShape, if_neg hne]
  split
  case h_2 hother => exact absurd hopen (hother _)
  case h_1 inner hinner =>
    obtain rfl := (List.cons.inj (hinner.symm.trans hopen)).2
    dsimp only
    split
    case h_1 hclose => rw [hdrop] at hclose; cases hclose
    case h_2 bracket rest hclose =>
      obtain rfl := (List.cons.inj (hclose.symm.trans hdrop)).2
      rw [htake, hnumeral]

/-- A shape is read if no blanks follow. -/
theorem readShape_of_isShape {pieces : List (Char × List Char)} {shape : List UInt64}
    (h : IsShape pieces shape) {text : List Char} (hend : Text.trimEnd text = text)
    (hfront : (Outline.of text).front = []) (hbehind : (Outline.of text).behind = pieces) :
    readShape text = .ok shape := by
  induction h generalizing text with
  | nil =>
      have hblanks : Text.Blanks text :=
        Text.trim_eq_nil_iff.mp ((Outline.trim_of_behind_eq_nil hbehind).trans hfront)
      have hnil : text = [] := hend.symm.trans (Text.trimEnd_append hblanks [])
      rw [hnil, readShape, if_pos rfl]
  | @cons numeral length pieces shape hlength hrest ih =>
      obtain ⟨blanks, inner, rfl, -, hblanks, -, hpiece, hinner⟩ :=
        Outline.exists_of_behind_eq_cons hbehind
      obtain ⟨dimension, after, rfl, hfree, hdimension, -, hgap, hafter⟩ :=
        Outline.exists_of_behind_eq_cons hinner
      have hopen : Text.trimStart (blanks ++ '[' :: (dimension ++ ']' :: after)) =
          '[' :: (dimension ++ ']' :: after) :=
        Text.trimStart_append (Text.trim_eq_nil_iff.mp (hblanks.trans hfront)) _
      have hnumeral : Numeral.readUnsigned 10 64 (Text.trim dimension) = .ok length.toNat := by
        rw [hdimension, hpiece, readUnsigned_eq_ok_iff_isLength, UInt64.ofNat_toNat]
        exact ⟨hlength, length.toNat_lt⟩
      have hothers : readShape (Text.trimEnd after) = .ok shape :=
        ih (Text.trimEnd_trimEnd after) (by rw [Outline.of_trimEnd, hgap])
          (by rw [Outline.of_trimEnd, hafter])
      rw [readShape_of_open hopen hfree hnumeral, hothers, UInt64.ofNat_toNat]
      rfl

/-! ## Spellings -/

/-- A text spells a type: a name of the kind, and a numeral in brackets for each dimension, with any
blanks around names, brackets and numerals. -/
def Spells (text : List Char) (spec : TypeSpec) : Prop :=
  spec.kind.IsNamed (Outline.of text).front ∧ IsShape (Outline.of text).behind spec.shape

/-- A tag without brackets is the first piece, and the rest starts with the second one. -/
theorem outline_of_tag {text : List Char}
    (h : ∀ c ∈ text.takeWhile (· != '['), ¬isBracket c = true) :
    Text.trim (text.takeWhile (· != '[')) = (Outline.of text).front ∧
      (Outline.of (text.dropWhile (· != '['))).front = [] ∧
      (Outline.of (text.dropWhile (· != '['))).behind = (Outline.of text).behind := by
  have hopen : ∀ c ∈ (text.dropWhile (· != '[')).head?, isBracket c = true := by
    intro c hc
    have hhead := List.head?_dropWhile_not (· != '[') text
    rw [hc] at hhead
    exact isBracket_iff.mpr (.inl (by simpa using hhead))
  have hcut := Outline.cut_append h (text.dropWhile (· != '['))
  rw [List.takeWhile_append_dropWhile, Outline.front_cut_eq_nil hopen, List.append_nil] at hcut
  rw [Outline.of, Outline.of, Outline.trim, Outline.trim, hcut, Outline.front_cut_eq_nil hopen]
  exact ⟨rfl, rfl, rfl⟩

/-- The tag ends at the first bracket if that opens a dimension. -/
theorem tag_not_isBracket {text : List Char} {shape : List UInt64}
    (h : IsShape (Outline.of text).behind shape) :
    ∀ c ∈ text.takeWhile (· != '['), ¬isBracket c = true := by
  obtain ⟨rest, htext, hfree, hrest, hhead⟩ := Outline.exists_rest text
  have hopen : rest.takeWhile (· != '[') = [] := by
    cases rest with
    | nil => rfl
    | cons c rest =>
        rw [Outline.cut_bracket (hhead c rfl), Outline.mk.injEq] at hrest
        rw [Outline.of, Outline.trim, ← hrest.2, List.map_cons] at h
        obtain rfl := h.bracket_eq
        rfl
  have htag : text.takeWhile (· != '[') = (Outline.cut text).front := by
    conv_lhs => rw [htext]
    rw [List.takeWhile_append_of_pos, hopen, List.append_nil]
    exact fun c hc => bne_iff_ne.mpr fun hbracket => hfree c hc (isBracket_iff.mpr (.inl hbracket))
  rw [htag]
  exact hfree

/-- A text that is trimmed at its end spells a type if its tag names the kind and the rest is read
as its shape. -/
theorem spells_iff {text : List Char} {spec : TypeSpec} (hend : Text.trimEnd text = text) :
    Spells text spec ↔
      Kind.ofTag? (String.ofList (text.takeWhile (· != '['))) = some spec.kind ∧
        readShape (text.dropWhile (· != '[')) = .ok spec.shape := by
  rw [Kind.ofTag?_eq_some_iff, String.toList_ofList]
  constructor
  · rintro ⟨hnamed, hshape⟩
    obtain ⟨htag, hfront, hbehind⟩ := outline_of_tag (tag_not_isBracket hshape)
    rw [← List.takeWhile_append_dropWhile (p := (· != '[')) (l := text)] at hend
    exact ⟨htag ▸ hnamed,
      readShape_of_isShape hshape (Text.trimEnd_of_append hend) hfront hbehind⟩
  · rintro ⟨hnamed, hread⟩
    obtain ⟨htag, -, hbehind⟩ := outline_of_tag (Outline.not_isBracket_of_trim hnamed.not_isBracket)
    exact ⟨htag ▸ hnamed, hbehind ▸ (isShape_of_readShape hread).2⟩

/-- Only the number of dimensions can be wrong with a spelling. -/
theorem parse_of_spells {text : String} {spec : TypeSpec} (h : Spells text.toList spec) :
    parse text =
      if maxDimensions < spec.shape.length then .error .tooManyDimensions else .ok spec := by
  rw [Spells, ← Outline.of_trim] at h
  obtain ⟨hkind, hshape⟩ := (spells_iff (Text.trimEnd_trim text.toList)).mp h
  rw [parse]
  dsimp only
  rw [hkind, hshape]
  rfl

/-- What is parsed is a spelling. -/
theorem spells_of_parse {text : String} {spec : TypeSpec} (h : parse text = .ok spec) :
    Spells text.toList spec := by
  rw [Spells, ← Outline.of_trim]
  refine (spells_iff (Text.trimEnd_trim text.toList)).mpr ?_
  rw [parse] at h
  dsimp only at h
  split at h
  case h_1 => cases h
  case h_2 kind hkind =>
    obtain ⟨shape, hshape, hrest⟩ := bind_eq_ok.mp h
    split at hrest
    case isTrue => cases hrest
    case isFalse =>
      obtain rfl := Except.ok.inj hrest
      exact ⟨hkind, hshape⟩

/-- What is parsed are the spellings with at most two dimensions. -/
theorem parse_eq_ok_iff {text : String} {spec : TypeSpec} :
    parse text = .ok spec ↔ Spells text.toList spec ∧ spec.shape.length ≤ maxDimensions := by
  constructor
  · intro h
    have hspells := spells_of_parse h
    refine ⟨hspells, Nat.le_of_not_lt fun hlong => ?_⟩
    rw [parse_of_spells hspells, if_pos hlong] at h
    cases h
  · rintro ⟨hspells, hshort⟩
    rw [parse_of_spells hspells, if_neg (Nat.not_lt.mpr hshort)]

/-! ## Printed types -/

/-- Printed digits are a length. -/
theorem isLength_toDigits (length : UInt64) : IsLength (Nat.toDigits 10 length.toNat) length := by
  have hwrites : Numeral.Writes 10 (Nat.toDigits 10 length.toNat) length.toNat :=
    Numeral.writes_toDigits (by decide) (by decide) length.toNat
  refine ⟨.bare hwrites, fun hhead => ?_⟩
  obtain ⟨rest, hrest⟩ := List.head?_eq_some_iff.mp hhead
  rw [hrest] at hwrites
  exact hwrites.not_sign.2 rfl

/-- The dimensions in a printed type. -/
def printedShape (shape : List UInt64) : List Char :=
  shape.flatMap fun length => '[' :: (Nat.toDigits 10 length.toNat ++ [']'])

/-- A type string is a name and the lengths in brackets. -/
theorem toList_text (spec : TypeSpec) :
    spec.text.toList = spec.kind.name.toList ++ printedShape spec.shape := by
  rw [text, String.toList_append, String.toList_join, List.flatMap_map, printedShape]
  refine congrArg _ (List.flatMap_congr fun length _ => ?_)
  have hnumber : (toString length.toNat).toList = Nat.toDigits 10 length.toNat :=
    String.toList_ofList
  rw [String.toList_append, String.toList_append, hnumber]
  rfl

/-- Printed lengths are those of the shape. -/
theorem outline_printedShape (shape : List UInt64) :
    (Outline.of (printedShape shape)).front = [] ∧
      IsShape (Outline.of (printedShape shape)).behind shape := by
  induction shape with
  | nil => exact ⟨rfl, .nil⟩
  | cons length shape ih =>
      obtain ⟨hfront, hbehind⟩ := ih
      have hlength := isLength_toDigits length
      have hcons : printedShape (length :: shape) =
          '[' :: (Nat.toDigits 10 length.toNat ++ ']' :: printedShape shape) := by
        simp [printedShape]
      rw [hcons, Outline.of_brackets hlength.not_isBracket, hlength.trim_eq, hfront]
      exact ⟨rfl, .cons hlength hbehind⟩

/-- A printed type is a spelling of it. -/
theorem spells_text (spec : TypeSpec) : Spells spec.text.toList spec := by
  have hname : spec.kind.IsNamed spec.kind.name.toList :=
    ⟨_, spec.kind.name_mem_names, forall₂_sameLetter_iff.mpr rfl⟩
  have hopen : ∀ c ∈ (printedShape spec.shape).head?, isBracket c = true := by
    cases spec.shape with
    | nil => exact nofun
    | cons => exact fun c hc => isBracket_iff.mpr (.inl (Option.some.inj hc).symm)
  have hcut := Outline.cut_append hname.not_isBracket (printedShape spec.shape)
  rw [Outline.front_cut_eq_nil hopen, List.append_nil] at hcut
  have hvisible : Text.Visible spec.kind.name.toList := by
    intro c hc
    have hcode := Kind.code_of_mem_names spec.kind.name_mem_names c hc
    omega
  rw [Spells, toList_text, Outline.of, hcut]
  refine ⟨?_, (outline_printedShape spec.shape).2⟩
  show spec.kind.IsNamed (Text.trim spec.kind.name.toList)
  rwa [Text.trim_of_visible hvisible]

/-! ## Respellings -/

/-- A text is changed in one place, in a way that is not meant to matter. -/
inductive Respells : List Char → List Char → Prop
  /-- Blanks come in at the start or behind a bracket. -/
  | behind {front rest blanks : List Char} (hplace : ∀ c ∈ front.getLast?, isBracket c = true)
      (hblanks : Text.Blanks blanks) : Respells (front ++ rest) (front ++ (blanks ++ rest))
  /-- Blanks come in at the end or in front of a bracket. -/
  | before {front rest blanks : List Char} (hplace : ∀ c ∈ rest.head?, isBracket c = true)
      (hblanks : Text.Blanks blanks) : Respells (front ++ rest) (front ++ (blanks ++ rest))
  /-- A letter in front of the brackets changes its case. -/
  | letter {front rest : List Char} {c d : Char} (hplace : ∀ c ∈ front, ¬isBracket c = true)
      (hletter : SameLetter c d) : Respells (front ++ c :: rest) (front ++ d :: rest)

/-- Respellings have the same outline, up to letter case in front. -/
theorem outline_of_respells {text other : List Char} (h : Respells text other) :
    (Outline.of text).front.map Char.toLower = (Outline.of other).front.map Char.toLower ∧
      (Outline.of text).behind = (Outline.of other).behind := by
  cases h with
  | @behind front rest blanks hplace hblanks =>
      have hsame : Outline.of (front ++ (blanks ++ rest)) = Outline.of (front ++ rest) := by
        cases hlast : front.getLast? with
        | none =>
            rw [List.getLast?_eq_none_iff.mp hlast]
            exact Outline.of_blanks hblanks rest
        | some bracket =>
            obtain ⟨before, rfl⟩ := List.getLast?_eq_some_iff.mp hlast
            have halike := Outline.alike_behind (hplace bracket hlast) hblanks rest
            rw [List.append_assoc, List.append_assoc]
            exact (halike.append before).of_eq
      rw [hsame]
      exact ⟨rfl, rfl⟩
  | before hplace hblanks =>
      rw [((Outline.alike_before hplace hblanks).append _).of_eq]
      exact ⟨rfl, rfl⟩
  | @letter front rest c d hplace hletter =>
      by_cases hbracket : isBracket c = true ∨ isBracket d = true
      case pos =>
        obtain rfl := hletter.eq_of_isBracket hbracket
        exact ⟨rfl, rfl⟩
      case neg =>
        have hcut {letter : Char} (hfree : ¬isBracket letter = true) :
            Outline.cut (front ++ letter :: rest) =
              ⟨front ++ letter :: (Outline.cut rest).front, (Outline.cut rest).behind⟩ := by
          rw [Outline.cut_append hplace, Outline.cut, if_neg hfree]
        obtain ⟨hc, hd⟩ := not_or.mp hbracket
        rw [Outline.of, Outline.of, hcut hc, hcut hd]
        refine ⟨?_, rfl⟩
        show (Text.trim _).map Char.toLower = (Text.trim _).map Char.toLower
        rw [← Text.trim_map isBlank_toLower, ← Text.trim_map isBlank_toLower, List.map_append,
          List.map_append, List.map_cons, List.map_cons, (toLower_eq_iff c d).mpr hletter]

/-- Respellings spell the same type. -/
theorem spells_congr {text other : List Char} (h : Relation.EqvGen Respells text other)
    (spec : TypeSpec) : Spells text spec ↔ Spells other spec := by
  induction h with
  | rel text other h =>
      obtain ⟨hfront, hbehind⟩ := outline_of_respells h
      rw [Spells, Spells, Kind.isNamed_congr hfront, hbehind]
  | refl => exact Iff.rfl
  | symm _ _ _ ih => exact ih.symm
  | trans _ _ _ _ _ first second => exact first.trans second

/-! ## Round trips -/

/-- A type with at most two dimensions is parsed as it is printed. What is parsed can be printed and
parsed again, and means the same with other blanks around its tag, brackets and numbers, or with its
tag in another letter case. Three dimensions or more are refused, if they are well-formed with that
cause. -/
theorem type_strings_round_trip :
    (∀ spec : TypeSpec, spec.shape.length ≤ 2 → parse spec.text = .ok spec) ∧
    (∀ text spec, parse text = .ok spec → parse spec.text = .ok spec) ∧
    (∀ text other : String, Relation.EqvGen Respells text.toList other.toList →
      ∀ spec, parse text = .ok spec ↔ parse other = .ok spec) ∧
    (∀ text : String, 3 ≤ text.toList.count '[' → ∃ fault, parse text = .error fault) ∧
    ∀ (text : String) (spec : TypeSpec), Spells text.toList spec → 3 ≤ spec.shape.length →
      parse text = .error .tooManyDimensions := by
  have hprint (spec : TypeSpec) (hshort : spec.shape.length ≤ 2) : parse spec.text = .ok spec :=
    parse_eq_ok_iff.mpr ⟨spells_text spec, hshort⟩
  refine ⟨hprint, ?_, ?_, ?_, ?_⟩
  · intro text spec h
    exact hprint spec (parse_eq_ok_iff.mp h).2
  · intro text other h spec
    rw [parse_eq_ok_iff, parse_eq_ok_iff, spells_congr h]
  · intro text hcount
    cases hparse : parse text with
    | error fault => exact ⟨fault, rfl⟩
    | ok spec =>
        obtain ⟨hspells, hshort⟩ := parse_eq_ok_iff.mp hparse
        rw [Outline.count_eq, hspells.2.count_eq] at hcount
        exact absurd hshort (Nat.not_le.mpr hcount)
  · intro text spec hspells hlong
    exact (parse_of_spells hspells).trans (if_pos (Nat.lt_of_succ_le hlong))

/-- A matrix, with blanks and a capital letter as well, and texts with a bracket too many. -/
theorem type_strings_round_trip_at_matrix :
    parse "f64[3][4]" = .ok ⟨.float64, [3, 4]⟩ ∧
      parse " F64[3\t][4]" = .ok ⟨.float64, [3, 4]⟩ ∧
      parse (text ⟨.float64, [3, 4]⟩) = .ok ⟨.float64, [3, 4]⟩ ∧
      (∃ fault, parse "f64[3][4][" = .error fault) ∧
      parse "u8[1][2][3]" = .error .tooManyDimensions := by
  obtain ⟨hprint, hagain, hrespell, hcount, hlong⟩ := type_strings_round_trip
  have hmatrix : parse "f64[3][4]" = .ok ⟨.float64, [3, 4]⟩ :=
    hprint ⟨.float64, [3, 4]⟩ (by decide)
  have hcase : Respells "f64[3][4]".toList "F64[3][4]".toList :=
    .letter (List.forall_mem_nil _) (by decide)
  have hfront : Respells "F64[3][4]".toList " F64[3][4]".toList :=
    @Respells.behind [] _ _ nofun (List.forall_mem_singleton.mpr rfl)
  have hinner : Respells " F64[3][4]".toList " F64[3\t][4]".toList :=
    @Respells.before " F64[3".toList "][4]".toList ['\t']
      (fun _ hc => isBracket_iff.mpr (.inr (Option.some.inj hc).symm))
      (List.forall_mem_singleton.mpr rfl)
  have hsame := ((Relation.EqvGen.rel _ _ hcase).trans _ _ _ (.rel _ _ hfront)).trans _ _ _
    (.rel _ _ hinner)
  have hrespelled := (hrespell _ _ hsame ⟨.float64, [3, 4]⟩).mp hmatrix
  have hcube : Spells "u8[1][2][3]".toList ⟨.unsigned .one, [1, 2, 3]⟩ :=
    spells_text ⟨.unsigned .one, [1, 2, 3]⟩
  exact ⟨hmatrix, hrespelled, hagain _ _ hrespelled, hcount _ (by decide),
    hlong _ _ hcube (by decide)⟩

end TypeSpec

end GroundLink
