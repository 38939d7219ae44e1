import GroundLink.Proofs.Field.Normal
import Mathlib.Data.List.Nodup

/-!
# Bodies in slices

Which lists of fields make a body, and which byte strings are decoded. The decoder walks through a
body with a running offset and takes a slice of it for each field (`slices`). Two checks of the
length are made before, and none on the way: they are enough for every slice to be within the body
and of the size of its field (`slices_fit`), so the only thing that can be wrong with a body of the
right length is the text at its end. `accepts_and_decodes` says so. It also says which fields pass
all checks and make no body all the same, since their sizes do not add up to a word.
-/

namespace GroundLink

/-- A record without two entries of one name finds each of them by its name. -/
theorem Record.get?_of_mem {record : Record} {name : String} {value : Value}
    (hnames : (record.entries.map Prod.fst).Nodup) (hentry : (name, value) ∈ record.entries) :
    record.get? name = some value := by
  unfold Record.get?
  cases hfind : record.entries.find? (·.1 == name) with
  | none => exact absurd (beq_iff_eq.mpr rfl) (List.find?_eq_none.mp hfind _ hentry)
  | some found =>
      have hname : found.1 = name := by simpa using List.find?_some hfind
      have hsame : found = (name, value) :=
        List.inj_on_of_nodup_map hnames (List.mem_of_find?_eq_some hfind) hentry hname
      rw [hsame]
      rfl

/-- A body can only be wrong in the text at its end. -/
theorem Field.decode_cases {field : Field} {data : Bytes}
    (hsize : field.size < 2 ^ 64)
    (hlength : field.isVariable = false → data.length = field.size) :
    (∃ value, field.decode data = .ok value ∧
        (field.kind = .text → ∃ s, utf8 s = Bytes.trimZeros data)) ∨
      field.decode data = .error (.invalidText field.name) ∧ field.kind = .text ∧
        ¬∃ s, utf8 s = Bytes.trimZeros data := by
  cases hkind : field.kind with
  | bytes => exact .inl ⟨.bytes data, by rw [decode, hkind], nofun⟩
  | text =>
      cases htext : ofUtf8? (Bytes.trimZeros data) with
      | some s =>
          exact .inl ⟨.text s, by simp only [decode, hkind, htext],
            fun _ => ⟨s, utf8_of_ofUtf8? htext⟩⟩
      | none =>
          refine .inr ⟨by simp only [decode, hkind, htext], rfl, ?_⟩
          rintro ⟨s, hs⟩
          rw [← hs, ofUtf8?_utf8] at htext
          cases htext
  | unsigned | signed | float32 | float64 | bool | timestamp =>
      have hfixed : field.isVariable = false := by rw [isVariable, hkind]; rfl
      exact .inl ⟨_, decode_of_fixed hfixed hsize (hlength hfixed), nofun⟩

namespace FieldList

/-! ## Lists of fields -/

/-- Going through fields never stops the program. -/
theorem survey_ne_overflow (names : List String) (open? : Option Field) (fields : List Field) :
    survey names open? fields ≠ .error .overflow := by
  induction fields generalizing names open? with
  | nil =>
      intro h
      cases h
  | cons field rest ih =>
      unfold survey
      split
      case isTrue =>
        intro h
        cases h
      case isFalse =>
        split
        case isTrue =>
          split
          case h_1 =>
            intro h
            cases h
          case h_2 => exact ih _ _
        case isFalse => exact ih _ _

/-- The check adds nothing up. -/
theorem check_ne_overflow (fields : List Field) : check fields ≠ .error .overflow := by
  have hsurvey := survey_ne_overflow [] none fields
  unfold check
  split
  case h_1 clash hclash =>
    rintro ⟨⟩
    exact hsurvey hclash
  case h_2 => exact nofun
  case h_3 => split <;> exact nofun

/-- Fields make a body if they pass the check and their sizes add up to a word. -/
theorem exists_ofFields_iff {fields : List Field} :
    (∃ list, ofFields fields = .ok list) ↔ check fields = .ok () ∧ sizeOf fields < 2 ^ 64 := by
  simp only [ofFields_eq_ok_iff]
  constructor
  · rintro ⟨list, rfl⟩
    exact ⟨check_eq_ok_iff.mpr ⟨list.distinct, list.variable_last⟩, list.sizeOf_lt⟩
  · rintro ⟨hcheck, hsize⟩
    obtain ⟨hnames, hlast⟩ := check_eq_ok_iff.mp hcheck
    obtain ⟨total, htotal⟩ := Word.exists_of_lt hsize
    have hsum : Field.addSizes 0 fields = some total :=
      addSizes_eq_some_iff.mpr (htotal.trans (Nat.zero_add _).symm)
    exact ⟨⟨fields, total, hnames, hlast, hsum⟩, rfl⟩

/-- They stop the program if they pass the check and their sizes do not add up to a word. -/
theorem ofFields_eq_overflow_iff {fields : List Field} :
    ofFields fields = .error .overflow ↔ check fields = .ok () ∧ 2 ^ 64 ≤ sizeOf fields := by
  have hsizes : Field.addSizes 0 fields = none ↔ 2 ^ 64 ≤ sizeOf fields := by
    rw [Option.eq_none_iff_forall_ne_some]
    constructor
    · intro h
      by_contra hsize
      obtain ⟨total, htotal⟩ := Word.exists_of_lt (Nat.not_le.mp hsize)
      exact h total (addSizes_eq_some_iff.mpr (htotal.trans (Nat.zero_add _).symm))
    · intro h total htotal
      have hsum : total.toNat = 0 + sizeOf fields := addSizes_eq_some_iff.mp htotal
      have := total.toNat_lt
      omega
  rw [← hsizes]
  unfold ofFields
  split
  case h_1 fault hfault =>
    refine ⟨?_, fun h => nomatch hfault.symm.trans h.1⟩
    rintro ⟨⟩
    exact absurd hfault (check_ne_overflow fields)
  case h_2 hcheck hnone => exact iff_of_true rfl ⟨hcheck, hnone⟩
  case h_3 hsome => exact ⟨nofun, fun h => nomatch hsome.symm.trans h.2⟩

/-- No field before the last one is of variable length if each that is of variable length is the
last one. -/
theorem fixed_before_last_iff {fields : List Field} :
    (∀ field ∈ fields.dropLast, field.isVariable = false) ↔
      ∀ i field, fields[i]? = some field → field.isVariable = true → i + 1 = fields.length := by
  constructor
  · intro h i field hget hvariable
    have hi : i < fields.length := (List.getElem?_eq_some_iff.mp hget).1
    by_contra hne
    have hfront : fields.dropLast[i]? = some field := by
      rw [List.getElem?_dropLast, if_pos (by omega), hget]
    rw [h field (List.mem_of_getElem? hfront)] at hvariable
    cases hvariable
  · intro h field hfield
    obtain ⟨i, hget⟩ := List.mem_iff_getElem?.mp hfield
    rw [List.getElem?_dropLast] at hget
    split at hget
    case isTrue hi =>
      rw [Bool.eq_false_iff]
      intro hvariable
      have := h i field hget hvariable
      omega
    case isFalse => cases hget

/-! ## Slices -/

/-- The part of a body that a field is decoded from: its first byte, and the one behind its last. -/
structure Slice where
  field : Field
  start : Nat
  stop : Nat

/-- The bytes of a slice. -/
def Slice.bytes (slice : Slice) (body : Bytes) : Bytes :=
  body.extract slice.start slice.stop

/-- The entry that a slice gives to a record. -/
def Slice.entry (body : Bytes) (slice : Slice) : Except DecodeError (String × Value) := do
  let value ← slice.field.decode (slice.bytes body)
  pure (slice.field.name, value)

/-- The slices of a body of `total` bytes for fields that begin at an offset. Each field begins
where the one before it ends; one of variable length goes on to the end of the body. -/
def slices (total : Nat) : (start : Nat) → List Field → List Slice
  | _, [] => []
  | start, field :: fields =>
    let stop := if field.isVariable then total else start + field.size
    ⟨field, start, stop⟩ :: slices total stop fields

/-- Each field has its slice. -/
theorem map_field_slices (total start : Nat) (fields : List Field) :
    (slices total start fields).map Slice.field = fields := by
  induction fields generalizing start with
  | nil => rfl
  | cons field fields ih => rw [slices, List.map_cons, ih]

/-- Decoding field by field what is left of a body is decoding its slices. -/
theorem decodeFields_eq_mapM {fields : List Field} (hsize : ∀ field ∈ fields, field.size < 2 ^ 64)
    (body : Bytes) (start : Nat) : decodeFields fields (body.drop start) =
      (slices body.length start fields).mapM (Slice.entry body) := by
  induction fields generalizing start with
  | nil => rfl
  | cons field fields ih =>
      obtain ⟨hsizeHead, hsizeRest⟩ := List.forall_mem_cons.mp hsize
      have hstep (size stop : Nat)
          (hbytes : (body.drop start).take size = body.extract start stop)
          (hrest : (body.drop start).drop size = body.drop stop) :
          (do
            let value ← field.decode ((body.drop start).take size)
            let rest ← decodeFields fields ((body.drop start).drop size)
            pure ((field.name, value) :: rest)) =
          (⟨field, start, stop⟩ :: slices body.length stop fields).mapM (Slice.entry body) := by
        rw [hbytes, hrest, ih hsizeRest, List.mapM_cons, Slice.entry, Slice.bytes]
        cases field.decode (body.extract start stop) <;> rfl
      rw [decodeFields, Field.span_of_size hsizeHead, slices]
      apply hstep
      · cases field.isVariable with
        | true => exact congrArg (body.drop start).take List.length_drop
        | false => exact congrArg (body.drop start).take (Nat.add_sub_cancel_left ..).symm
      · cases field.isVariable with
        | true => exact List.drop_length.trans List.drop_length.symm
        | false => exact List.drop_drop

/-- What is right about a slice of a body of `total` bytes, of which `fixed` are for fields of fixed
size. -/
structure Slice.Fits (total fixed : Nat) (slice : Slice) : Prop where
  size_lt : slice.field.size < 2 ^ 64
  start_le : slice.start ≤ slice.stop
  stop_le : slice.stop ≤ total
  /-- A field of fixed size has its bytes. -/
  of_fixed : slice.field.isVariable = false → slice.start + slice.field.size = slice.stop
  /-- A field of variable length has all bytes behind the others. -/
  of_variable : slice.field.isVariable = true → slice.start = fixed ∧ slice.stop = total

/-- If a body is long enough for the fields of fixed size, all slices are within it. -/
theorem slices_fit {fields : List Field} {total start : Nat}
    (hsize : ∀ field ∈ fields, field.size < 2 ^ 64)
    (hlast : ∀ field ∈ fields.dropLast, field.isVariable = false)
    (hle : start + sizeOf fields ≤ total) :
    ∀ slice ∈ slices total start fields, slice.Fits total (start + sizeOf fields) := by
  induction fields generalizing start with
  | nil => exact List.forall_mem_nil _
  | cons field fields ih =>
      obtain ⟨hsizeHead, hsizeRest⟩ := List.forall_mem_cons.mp hsize
      obtain ⟨hvariable, hlastRest⟩ := rest_of_fixed hlast
      rw [sizeOf] at hle ⊢
      rw [slices, List.forall_mem_cons]
      cases hkind : field.isVariable with
      | true =>
          -- nothing follows a field of variable length, and nothing of it is of fixed size
          obtain rfl := hvariable hkind
          rw [Field.size_of_variable hkind] at hle ⊢
          exact ⟨⟨hsizeHead, hle, Nat.le_refl _,
            fun hfixed => Bool.noConfusion (hkind.symm.trans hfixed),
            fun _ => ⟨rfl, rfl⟩⟩, List.forall_mem_nil _⟩
      | false =>
          rw [← Nat.add_assoc] at hle ⊢
          exact ⟨⟨hsizeHead, Nat.le_add_right .., Nat.le_trans (Nat.le_add_right ..) hle,
            fun _ => rfl, fun hvariable => Bool.noConfusion (hkind.symm.trans hvariable)⟩,
            ih hsizeRest hlastRest hle⟩

/-! ## Bodies -/

/-- If a field is a text, what a body has behind the fields of fixed size has to be one, but for
zero bytes at its end. -/
def TextAtEnd (list : FieldList) (body : Bytes) (field : Field) : Prop :=
  field.kind = .text → ∃ s, utf8 s = Bytes.trimZeros (body.drop list.fixedSize.toNat)

section

variable {list : FieldList} {body : Bytes} {slice : Slice}

/-- A slice that fits has as many bytes as its field. -/
theorem Slice.Fits.length_bytes (h : slice.Fits body.length list.fixedSize.toNat)
    (hfixed : slice.field.isVariable = false) :
    (slice.bytes body).length = slice.field.size := by
  have hstop := h.of_fixed hfixed
  have hle := h.stop_le
  rw [Slice.bytes, List.extract_eq_take_drop, List.length_take, List.length_drop]
  omega

/-- The slice of a text is all that follows the fields of fixed size. -/
theorem Slice.Fits.bytes_of_text (h : slice.Fits body.length list.fixedSize.toNat)
    (htext : slice.field.kind = .text) : slice.bytes body = body.drop list.fixedSize.toNat := by
  have hvariable : slice.field.isVariable = true := by rw [Field.isVariable, htext]; rfl
  obtain ⟨hstart, hstop⟩ := h.of_variable hvariable
  rw [Slice.bytes, hstart, hstop, List.extract_eq_take_drop]
  exact List.take_of_length_le (Nat.le_of_eq List.length_drop)

/-- A slice gives its entry, or it is the text at the end that is no text. -/
theorem Slice.Fits.entry_cases (h : slice.Fits body.length list.fixedSize.toNat) :
    (∃ value, slice.entry body = .ok (slice.field.name, value)) ∧ list.TextAtEnd body slice.field ∨
      slice.entry body = .error (.invalidText slice.field.name) ∧
        ¬list.TextAtEnd body slice.field := by
  rcases Field.decode_cases h.size_lt h.length_bytes with
    ⟨value, hvalue, htext⟩ | ⟨herror, hkind, htext⟩
  · refine .inl ⟨⟨value, by rw [Slice.entry, hvalue]; rfl⟩, fun hkind => ?_⟩
    rw [← h.bytes_of_text hkind]
    exact htext hkind
  · refine .inr ⟨by rw [Slice.entry, herror]; rfl, fun hend => htext ?_⟩
    rw [h.bytes_of_text hkind]
    exact hend hkind

/-- A slice that fits gives an entry if a text in it is valid. -/
theorem Slice.Fits.exists_entry_iff (h : slice.Fits body.length list.fixedSize.toNat) :
    (∃ entry, slice.entry body = .ok entry) ↔ list.TextAtEnd body slice.field := by
  rcases h.entry_cases with ⟨⟨value, hvalue⟩, hend⟩ | ⟨herror, hend⟩
  · exact iff_of_true ⟨_, hvalue⟩ hend
  · exact iff_of_false (fun ⟨_, hentry⟩ => nomatch herror.symm.trans hentry) hend

/-- Whether a body has the right length: exactly that of the fields if all are of fixed size, and
otherwise at least that of those that are. -/
def HasLength (list : FieldList) (body : Bytes) : Prop :=
  list.fixedSize.toNat ≤ body.length ∧
    ((∀ field ∈ list.fields, field.isVariable = false) → body.length = list.fixedSize.toNat)

/-- If a body is long enough all slices fit. -/
theorem slices_fit_of_length (hlength : list.fixedSize.toNat ≤ body.length) :
    ∀ slice ∈ slices body.length 0 list.fields,
      slice.Fits body.length list.fixedSize.toNat := by
  rw [fixedSize_toNat] at hlength ⊢
  have hle : 0 + sizeOf list.fields ≤ body.length := (Nat.zero_add _).symm ▸ hlength
  have hfit := slices_fit list.size_lt_of_mem list.variable_last hle
  rwa [Nat.zero_add] at hfit

/-- A body of the right length is decoded slice by slice. -/
theorem decode_eq_mapM (hlength : list.HasLength body) :
    list.decode body =
      ((slices body.length 0 list.fields).mapM (Slice.entry body)).map Record.mk := by
  rw [HasLength, fixedSize_toNat] at hlength
  rw [decode_of_length hlength.1 hlength.2]
  exact congrArg (Except.map Record.mk) (decodeFields_eq_mapM list.size_lt_of_mem body 0)

/-- A body that is decoded has a length that suits its fields. -/
theorem hasLength_of_decode {record : Record} (h : list.decode body = .ok record) :
    list.HasLength body := by
  rw [HasLength, fixedSize_toNat]
  exact length_of_decode h

/-- A body is decoded if its length is right and the text at its end, if it has to be one. -/
theorem exists_decode_eq_ok_iff : (∃ record, list.decode body = .ok record) ↔
    list.HasLength body ∧ ∀ field ∈ list.fields, list.TextAtEnd body field := by
  have hentries (hlength : list.HasLength body) : (∃ record, list.decode body = .ok record) ↔
      ∀ field ∈ list.fields, list.TextAtEnd body field := by
    have hslices : (∃ record, list.decode body = .ok record) ↔
        ∀ slice ∈ slices body.length 0 list.fields, ∃ entry, slice.entry body = .ok entry := by
      rw [decode_eq_mapM hlength, exists_map_eq_ok, exists_mapM_eq_ok]
    rw [hslices, forall₂_congr fun slice hmem =>
      (slices_fit_of_length hlength.1 slice hmem).exists_entry_iff]
    rw [← List.forall_mem_map (f := Slice.field) (P := list.TextAtEnd body), map_field_slices]
  constructor
  · rintro ⟨record, h⟩
    have hlength := hasLength_of_decode h
    exact ⟨hlength, (hentries hlength).mp ⟨record, h⟩⟩
  · rintro ⟨hlength, hend⟩
    exact (hentries hlength).mpr hend

/-- No field is ever given the wrong number of bytes. -/
theorem decode_ne_length_error (name : String) (expected : UInt64) (actual : Nat) :
    list.decode body ≠ .error (.length name expected actual) := by
  intro h
  unfold decode at h
  split at h
  case isTrue => cases h
  case isFalse hlong =>
    split at h
    case isTrue => cases h
    case isFalse =>
      have hwalk : decodeFields list.fields body = _ :=
        decodeFields_eq_mapM list.size_lt_of_mem body 0
      rw [hwalk] at h
      obtain ⟨before, slice, after, hslices, -, hslice⟩ := first_of_mapM (map_eq_error.mp h)
      have hmem : slice ∈ slices body.length 0 list.fields :=
        hslices ▸ List.mem_append_right before List.mem_cons_self
      rcases (slices_fit_of_length (Nat.not_lt.mp hlong) slice hmem).entry_cases with
        ⟨⟨value, hvalue⟩, -⟩ | ⟨herror, -⟩
      · cases hvalue.symm.trans hslice
      · cases herror.symm.trans hslice

/-- A record has an entry for each field, and finds it by the name of the field. -/
theorem record_of_decode {record : Record} (h : list.decode body = .ok record) :
    record.entries.map Prod.fst = list.fields.map Field.name ∧
      ∀ slice ∈ slices body.length 0 list.fields, ∃ value,
        slice.field.decode (slice.bytes body) = .ok value ∧
          record.get? slice.field.name = some value := by
  rw [decode_eq_mapM (hasLength_of_decode h)] at h
  obtain ⟨entries, hentries, rfl⟩ := map_eq_ok.mp h
  have hnames : entries.map Prod.fst = list.fields.map Field.name := by
    rw [← map_field_slices body.length 0 list.fields, List.map_map, ← List.forall₂_eq_eq_eq,
      List.forall₂_map_left_iff, List.forall₂_map_right_iff]
    refine (forall₂_of_mapM hentries).flip.imp fun entry slice hentry => ?_
    obtain ⟨value, -, hpair⟩ := bind_eq_ok.mp hentry
    exact congrArg Prod.fst (Except.ok.inj hpair).symm
  refine ⟨hnames, fun slice hmem => ?_⟩
  obtain ⟨entry, hentry, hslice⟩ := exists_of_forall₂ (forall₂_of_mapM hentries) slice hmem
  obtain ⟨value, hvalue, hpair⟩ := bind_eq_ok.mp hslice
  obtain rfl := Except.ok.inj hpair
  exact ⟨value, hvalue, Record.get?_of_mem (hnames ▸ list.distinct) hentry⟩

end

/-- A list has at most one field of variable length. -/
theorem variable_unique (list : FieldList) {field other : Field} (hfield : field ∈ list.fields)
    (hvariable : field.isVariable = true) (hother : other ∈ list.fields)
    (hvariable' : other.isVariable = true) : other = field := by
  obtain ⟨i, hi⟩ := List.mem_iff_getElem?.mp hfield
  obtain ⟨j, hj⟩ := List.mem_iff_getElem?.mp hother
  have hi' := fixed_before_last_iff.mp list.variable_last i field hi hvariable
  have hj' := fixed_before_last_iff.mp list.variable_last j other hj hvariable'
  obtain rfl : j = i := Nat.succ.inj (hj'.trans hi'.symm)
  exact Option.some.inj (hj.symm.trans hi)

/-- A field of fixed size holds no text. -/
theorem textAtEnd_of_fixed {list : FieldList} {body : Bytes} {field : Field}
    (hfixed : field.isVariable = false) : list.TextAtEnd body field := by
  intro htext
  rw [Field.isVariable, htext] at hfixed
  cases hfixed

/-- What a body has to be like depends on whether there is a field of variable length. -/
theorem hasLength_and_text_iff (list : FieldList) (body : Bytes) :
    (list.HasLength body ∧ ∀ field ∈ list.fields, list.TextAtEnd body field) ↔
      ((∀ field ∈ list.fields, field.isVariable = false) ∧ body.length = list.fixedSize.toNat) ∨
        ∃ field ∈ list.fields, field.isVariable = true ∧ list.fixedSize.toNat ≤ body.length ∧
          list.TextAtEnd body field := by
  constructor
  · rintro ⟨⟨hle, hexact⟩, htext⟩
    by_cases hfixed : ∀ field ∈ list.fields, field.isVariable = false
    · exact .inl ⟨hfixed, hexact hfixed⟩
    · push Not at hfixed
      obtain ⟨field, hfield, hvariable⟩ := hfixed
      exact .inr ⟨field, hfield, Bool.not_eq_false _ ▸ hvariable, hle, htext field hfield⟩
  · rintro (⟨hfixed, hlength⟩ | ⟨field, hfield, hvariable, hle, htext⟩)
    · exact ⟨⟨Nat.le_of_eq hlength.symm, fun _ => hlength⟩,
        fun field hfield => textAtEnd_of_fixed (hfixed field hfield)⟩
    · refine ⟨⟨hle, fun hfixed => ?_⟩, fun other hother => ?_⟩
      · cases (hfixed field hfield).symm.trans hvariable
      · cases hkind : other.isVariable with
        | false => exact textAtEnd_of_fixed hkind
        | true => exact list.variable_unique hfield hvariable hother hkind ▸ htext

/-- Fields make a body if their names differ, one of variable length is the last, and their sizes
add up to a word; if it is only the last that is wrong, the program stops. A body is decoded if it
has exactly the bytes of the fields or, if one is of variable length, at least those of the others
and, if that one is a text, a text behind them. All slices are within the body and none of them has
the wrong length for its field. The record has the values of the slices, by name. -/
theorem accepts_and_decodes (fields : List Field) :
    ((∃ list, ofFields fields = .ok list) ↔ (fields.map Field.name).Nodup ∧
      (∀ i field, fields[i]? = some field → field.isVariable = true → i + 1 = fields.length) ∧
      sizeOf fields < 2 ^ 64) ∧
    (ofFields fields = .error .overflow ↔ (fields.map Field.name).Nodup ∧
      (∀ i field, fields[i]? = some field → field.isVariable = true → i + 1 = fields.length) ∧
      2 ^ 64 ≤ sizeOf fields) ∧
    ∀ list, ofFields fields = .ok list → ∀ body : Bytes,
      ((∃ record, list.decode body = .ok record) ↔
        ((∀ field ∈ fields, field.isVariable = false) ∧ body.length = list.fixedSize.toNat) ∨
          ∃ field ∈ fields, field.isVariable = true ∧ list.fixedSize.toNat ≤ body.length ∧
            (field.kind = .text →
              ∃ s, utf8 s = Bytes.trimZeros (body.drop list.fixedSize.toNat))) ∧
      (list.HasLength body → list.decode body =
        ((slices body.length 0 fields).mapM (Slice.entry body)).map Record.mk) ∧
      (list.fixedSize.toNat ≤ body.length → ∀ slice ∈ slices body.length 0 fields,
        slice.start ≤ slice.stop ∧ slice.stop ≤ body.length) ∧
      (∀ name expected actual, list.decode body ≠ .error (.length name expected actual)) ∧
      ∀ record, list.decode body = .ok record →
        record.entries.map Prod.fst = fields.map Field.name ∧
        (slices body.length 0 fields).map Slice.field = fields ∧
        ∀ slice ∈ slices body.length 0 fields, ∃ value,
          slice.field.decode (slice.bytes body) = .ok value ∧
            record.get? slice.field.name = some value := by
  refine ⟨?_, ?_, fun list hlist body => ?_⟩
  · rw [exists_ofFields_iff, check_eq_ok_iff, fixed_before_last_iff, and_assoc]
  · rw [ofFields_eq_overflow_iff, check_eq_ok_iff, fixed_before_last_iff, and_assoc]
  · obtain rfl := ofFields_eq_ok_iff.mp hlist
    refine ⟨?_, decode_eq_mapM, fun hle slice hmem => ?_, decode_ne_length_error,
      fun record hrecord => ?_⟩
    · rw [exists_decode_eq_ok_iff, hasLength_and_text_iff]
      rfl
    · have hfit := slices_fit_of_length hle slice hmem
      exact ⟨hfit.start_le, hfit.stop_le⟩
    · obtain ⟨hnames, hvalues⟩ := record_of_decode hrecord
      exact ⟨hnames, map_field_slices body.length 0 list.fields, hvalues⟩

/-- A number and a text: the zero byte at the end is no part of the text. One byte is too short for
the number. -/
theorem accepts_and_decodes_note :
    let fields := [Field.scalar "id" (.unsigned .two), .scalar "note" .text]
    ∃ list, ofFields fields = .ok list ∧
      (∃ record, list.decode [1, 2, 104, 105, 0] = .ok record ∧
        record.get? "note" = some (.text "hi")) ∧
      ¬∃ record, list.decode [1] = .ok record := by
  intro fields
  have hsize : sizeOf fields = 2 := by decide
  obtain ⟨haccepts, -, hdecodes⟩ := accepts_and_decodes fields
  obtain ⟨list, hlist⟩ :=
    haccepts.mpr ⟨by decide, fixed_before_last_iff.mp (by decide), hsize ▸ by decide⟩
  have hfixed : list.fixedSize.toNat = 2 := by
    rw [fixedSize_toNat, ofFields_eq_ok_iff.mp hlist, hsize]
  obtain ⟨hiff, -, -, -, hrecord⟩ := hdecodes list hlist [1, 2, 104, 105, 0]
  rw [hfixed] at hiff
  obtain ⟨record, hdecode⟩ := hiff.mpr
    (.inr ⟨.scalar "note" .text, by decide, rfl, by decide, fun _ => ⟨"hi", by decide +kernel⟩⟩)
  obtain ⟨-, -, hvalues⟩ := hrecord record hdecode
  obtain ⟨value, hvalue, hget⟩ :=
    hvalues ⟨.scalar "note" .text, 2, 5⟩ (List.mem_cons_of_mem _ List.mem_cons_self)
  have htext : Value.text "hi" = value :=
    Except.ok.inj (Eq.trans (by with_unfolding_all rfl) hvalue)
  refine ⟨list, hlist, ⟨record, hdecode, htext ▸ hget⟩, fun hshort => ?_⟩
  obtain ⟨hiff', -⟩ := hdecodes list hlist [1]
  rw [hfixed] at hiff'
  rcases hiff'.mp hshort with ⟨-, hlength⟩ | ⟨field, -, -, hlength, -⟩
  · exact absurd hlength (by decide)
  · exact absurd hlength (by decide)

/-- One field has a name of its own and is of fixed size, so nothing is wrong with a list of it; but
a matrix of 2³² rows and as many columns has too many bytes for a word, and the program stops. -/
theorem oversized_list_stops :
    ∃ field : Field, field.text = "a: u8[4294967296][4294967296]" ∧
      ([field].map Field.name).Nodup ∧
      (∀ i other, [field][i]? = some other → other.isVariable = true → i + 1 = [field].length) ∧
      ofFields [field] = .error .overflow := by
  let field : Field :=
    ⟨"a", .unsigned .one, [4294967296, 4294967296], .big, by decide, by decide, nofun⟩
  refine ⟨field, by decide, by decide, fixed_before_last_iff.mp (by decide), ?_⟩
  exact ofFields_eq_overflow_iff.mpr ⟨by decide, by decide⟩

end FieldList

end GroundLink
