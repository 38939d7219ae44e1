import GroundLink.Proofs.Field.Scalar
import GroundLink.Proofs.Field.Size

/-!
# Bodies there and back

A body is the bytes of its fields one after another, and an array is the bytes of its items one
after another, so the decoder has to cut where the encoder has joined. Every length it cuts by is a
product of dimensions (`Kind.size`), and the words for these lengths are what they stand for, as the
size of the whole body fits a word. `decode_encode` says that the decoded record holds the canonical
form of every value; read `Kind.CanonicalAt` and `Recorded` first.
-/

namespace GroundLink

/-- The canonical form of a value that is nested as dimensions say: item by item. -/
def Kind.CanonicalAt (kind : Kind) : List UInt64 → Value → Value → Prop
  | [], value, result => kind.Canonical value result
  | dimension :: rest, .array items, .array results =>
    items.length = dimension.toNat ∧ List.Forall₂ (kind.CanonicalAt rest) items results
  | _ :: _, _, _ => False

/-- No value has two canonical forms, however deep it is nested. -/
theorem Kind.canonicalAt_unique {kind : Kind} {shape : List UInt64} :
    Relator.RightUnique (kind.CanonicalAt shape) := by
  induction shape with
  | nil => exact fun _ _ _ h h' => h.unique h'
  | cons dimension rest ih =>
      intro value first second h h'
      cases value with
      | array items =>
          cases first with
          | array results =>
              cases second with
              | array results' =>
                  rw [List.right_unique_forall₂' ih h.2 h'.2]
              | _ => exact absurd h' id
          | _ => exact absurd h id
      | _ => exact absurd h id

namespace Field

variable {field : Field} {value : Value} {data : Bytes}

/-- The bytes of a value have the size that the dimensions say, and reading them gives its canonical
form. -/
theorem canonical_of_encodeShape {shape : List UInt64} (hfixed : field.isVariable = false)
    (hfloat : field.kind.isFloat = false) (hshape : 0 ∉ shape)
    (h : field.encodeShape shape value = .ok data) :
    data.length = field.kind.size shape ∧
      field.kind.CanonicalAt shape value (field.decodeShape shape data) := by
  induction shape generalizing value data with
  | nil => exact canonical_of_encodeScalar hfixed hfloat h
  | cons dimension rest ih =>
      obtain ⟨hdimension, hrest⟩ := List.ne_and_not_mem_of_not_mem_cons hshape
      cases value with
      | array items =>
          rw [encodeShape] at h
          split at h
          case isTrue hcount =>
            obtain ⟨parts, hparts, h⟩ := bind_eq_ok.mp h
            obtain rfl := Except.ok.inj h
            have hitems := (forall₂_of_mapM hparts).imp fun item part hpart => ih hrest hpart
            obtain ⟨hlengths, hcanonical⟩ := (List.forall₂_and_left parts items).mp hitems.flip
            -- the decoder cuts where the parts were joined
            have hnumber : parts.length = dimension.toNat := hitems.length_eq.symm.trans hcount
            have hlength : parts.flatten.length = dimension.toNat * field.kind.size rest := by
              rw [Bytes.length_flatten hlengths, hnumber]
            have hpositive : 0 < dimension.toNat :=
              Nat.pos_of_ne_zero fun hzero => hdimension (UInt64.toNat_inj.mp hzero).symm
            have hpieces : Bytes.pieces (parts.flatten.length / dimension.toNat) parts.flatten =
                parts := by
              rw [hlength, Nat.mul_div_cancel_left _ hpositive]
              exact Bytes.pieces_flatten (Kind.size_pos hfixed hrest) hlengths
            refine ⟨hlength, ?_⟩
            rw [decodeShape, hpieces]
            exact ⟨hcount, List.forall₂_map_right_iff.mpr hcanonical.flip⟩
          case isFalse => cases h
      | _ => cases h

/-! ## Fields -/

/-- The bytes of a value have the size of the field, and reading them gives its canonical form. -/
theorem fixed_of_encodeInto (hfixed : field.isVariable = false)
    (hfloat : field.kind.isFloat = false) (hsize : field.size < 2 ^ 64)
    (h : field.encodeInto value = .ok data) :
    data.length = field.size ∧
      ∃ result, field.decode data = .ok result ∧
        field.kind.CanonicalAt field.shape value result := by
  obtain ⟨hlength, hcanonical⟩ := canonical_of_encodeShape hfixed hfloat field.shape_nonzero h
  exact ⟨hlength, _, decode_of_fixed hfixed hsize hlength, hcanonical⟩

/-- Reading all bytes of a value of variable length gives its canonical form. -/
theorem variable_of_encodeInto (hvariable : field.isVariable = true)
    (h : field.encodeInto value = .ok data) :
    ∃ result, field.decode data = .ok result ∧
      field.kind.CanonicalAt field.shape value result := by
  have hshape := field.variable_scalar hvariable
  rw [encodeInto, hshape] at h
  change field.encodeScalar value = .ok data at h
  rw [hshape]
  unfold isVariable at hvariable
  unfold encodeScalar at h
  unfold decode
  cases hkind : field.kind with
  | bytes =>
      simp only [hkind] at h ⊢
      split at h
      case h_1 bytes =>
        obtain rfl := Except.ok.inj h
        exact ⟨_, rfl, .bytes bytes⟩
      case h_2 => cases h
  | text =>
      simp only [hkind] at h ⊢
      split at h
      case h_1 s =>
        obtain rfl := Except.ok.inj h
        obtain ⟨t, count, hs, ht⟩ := exists_without_nuls s
        refine ⟨.text t, ?_, .text hs ht⟩
        rw [trimZeros_utf8 hs ht, ofUtf8?_utf8]
      case h_2 => cases h
  | unsigned | signed | float32 | float64 | bool | timestamp =>
      rw [hkind] at hvariable
      cases hvariable

end Field

/-! ## Bodies -/

namespace FieldList

/-- A record holds the canonical form of every value, by field name and in field order. -/
inductive Recorded : List Field → List Value → List (String × Value) → Prop
  | nil : Recorded [] [] []
  | cons {field : Field} {value result : Value} {fields : List Field} {values : List Value}
      {entries : List (String × Value)} (h : field.kind.CanonicalAt field.shape value result)
      (hrest : Recorded fields values entries) :
      Recorded (field :: fields) (value :: values) ((field.name, result) :: entries)

/-- Values have one record only. -/
theorem Recorded.unique {fields : List Field} {values : List Value}
    {entries entries' : List (String × Value)} (h : Recorded fields values entries)
    (h' : Recorded fields values entries') : entries = entries' := by
  induction h generalizing entries' with
  | nil =>
      cases h'
      rfl
  | cons hfield _ ih =>
      cases h' with
      | cons hfield' hrest' => rw [Kind.canonicalAt_unique hfield hfield', ih hrest']

/-- The fields before the last one are of fixed size. -/
theorem rest_of_fixed {field : Field} {fields : List Field}
    (h : ∀ other ∈ (field :: fields).dropLast, other.isVariable = false) :
    (field.isVariable = true → fields = []) ∧
      ∀ other ∈ fields.dropLast, other.isVariable = false := by
  cases fields with
  | nil => exact ⟨fun _ => rfl, List.forall_mem_nil _⟩
  | cons next rest =>
      rw [List.dropLast_cons_cons] at h
      obtain ⟨hfield, hrest⟩ := List.forall_mem_cons.mp h
      exact ⟨fun hvariable => absurd (hfield.symm.trans hvariable) (by decide), hrest⟩

/-- What is known of the bytes of a list of values. -/
theorem recorded_of_encodeFields {fields : List Field} {values : List Value} {body : Bytes}
    (hcount : values.length = fields.length) (hsize : ∀ field ∈ fields, field.size < 2 ^ 64)
    (hfloat : ∀ field ∈ fields, field.kind.isFloat = false)
    (hlast : ∀ field ∈ fields.dropLast, field.isVariable = false)
    (h : encodeFields fields values = .ok body) :
    (sizeOf fields ≤ body.length) ∧
      ((∀ field ∈ fields, field.isVariable = false) → body.length = sizeOf fields) ∧
      ∃ entries, decodeFields fields body = .ok entries ∧ Recorded fields values entries := by
  induction fields generalizing values body with
  | nil =>
      obtain rfl := List.length_eq_zero_iff.mp hcount
      obtain rfl := Except.ok.inj h
      exact ⟨Nat.le_refl _, fun _ => rfl, [], rfl, .nil⟩
  | cons field fields ih =>
      cases values with
      | nil => cases hcount
      | cons value values =>
          obtain ⟨hsizeHead, hsizeRest⟩ := List.forall_mem_cons.mp hsize
          obtain ⟨hfloatHead, hfloatRest⟩ := List.forall_mem_cons.mp hfloat
          obtain ⟨hvariable, hlastRest⟩ := rest_of_fixed hlast
          obtain ⟨first, hfirst, h⟩ := bind_eq_ok.mp h
          obtain ⟨rest, hrest, h⟩ := bind_eq_ok.mp h
          obtain rfl := Except.ok.inj h
          obtain ⟨hle, heq, entries, hentries, hrecorded⟩ :=
            ih (Nat.succ.inj hcount) hsizeRest hfloatRest hlastRest hrest
          rw [sizeOf, List.length_append]
          cases hkind : field.isVariable with
          | false =>
              -- the size says where the next field begins
              obtain ⟨hlength, result, hresult, hcanonical⟩ :=
                Field.fixed_of_encodeInto hkind hfloatHead hsizeHead hfirst
              refine ⟨by omega, fun hfixed => ?_, (field.name, result) :: entries, ?_,
                .cons hcanonical hrecorded⟩
              · rw [hlength, heq (List.forall_mem_cons.mp hfixed).2]
              · rw [decodeFields, Field.span_of_size hsizeHead, hkind]
                show ((field.decode ((first ++ rest).take field.size)) >>= _) = _
                rw [List.take_left' hlength, hresult]
                show ((decodeFields fields ((first ++ rest).drop field.size)) >>= _) = _
                rw [List.drop_left' hlength, hentries]
                rfl
          | true =>
              -- nothing follows a field of variable length
              obtain rfl := hvariable hkind
              obtain ⟨result, hresult, hcanonical⟩ := Field.variable_of_encodeInto hkind hfirst
              obtain rfl : values = [] := List.length_eq_zero_iff.mp (Nat.succ.inj hcount)
              obtain rfl : [] = rest := Except.ok.inj hrest
              refine ⟨?_, fun hfixed => ?_, [(field.name, result)], ?_, .cons hcanonical .nil⟩
              · rw [Field.size_of_variable hkind]
                omega
              · have := (List.forall_mem_cons.mp hfixed).1
                rw [hkind] at this
                cases this
              · rw [decodeFields, Field.span_of_size hsizeHead, hkind]
                show ((field.decode ((first ++ []).take (first ++ []).length)) >>= _) = _
                rw [List.take_length, List.append_nil, hresult]
                rfl

/-- A list without a field of variable length at its end has none at all. -/
theorem fixed_of_hasVariable {list : FieldList} (h : list.hasVariable = false) :
    ∀ field ∈ list.fields, field.isVariable = false := by
  unfold hasVariable at h
  cases hlast : list.fields.getLast? with
  | none =>
      rw [List.getLast?_eq_none_iff.mp hlast]
      exact List.forall_mem_nil _
  | some last =>
      rw [hlast] at h
      rw [← List.dropLast_append_getLast? last hlast]
      exact List.forall_mem_append.mpr ⟨list.variable_last, List.forall_mem_singleton.mpr h⟩

/-- The values of a body are encoded one by one if they are as many as the fields and the buffer can
be reserved. -/
theorem encode_eq_ok_iff {list : FieldList} {values : List Value} {body : Bytes} :
    list.encode values = .ok body ↔ values.length = list.fields.length ∧
      sizeOf list.fields < 2 ^ 63 ∧ encodeFields list.fields values = .ok body := by
  rw [encode, reserve, list.fixedSize_toNat]
  constructor
  · intro h
    split at h
    case isFalse => cases h
    case isTrue hcount =>
      split at h
      case isFalse => cases h
      case isTrue hsize => exact ⟨hcount, hsize, h⟩
  · rintro ⟨hcount, hsize, h⟩
    rw [if_pos hcount, if_pos hsize]
    exact h

/-- A body is decoded field by field if it has the right length. -/
theorem decode_of_length {list : FieldList} {body : Bytes}
    (hle : sizeOf list.fields ≤ body.length)
    (hlength : (∀ field ∈ list.fields, field.isVariable = false) →
      body.length = sizeOf list.fields) :
    list.decode body = (decodeFields list.fields body).map Record.mk := by
  have hlong : ¬body.length < list.fixedSize.toNat := by
    rw [fixedSize_toNat]
    exact Nat.not_lt.mpr hle
  have hexact : ¬(!list.hasVariable && body.length != list.fixedSize.toNat) = true := by
    rw [fixedSize_toNat]
    cases hvariable : list.hasVariable with
    | true => exact Bool.false_ne_true
    | false => simp [hlength (fixed_of_hasVariable hvariable)]
  rw [decode, if_neg hlong, if_neg hexact]

/-- Decoding a body gives the canonical form of every value that was encoded. -/
theorem decode_encode {list : FieldList} {values : List Value} {body : Bytes}
    (hfloat : ∀ field ∈ list.fields, field.kind.isFloat = false)
    (h : list.encode values = .ok body) :
    ∃ record, list.decode body = .ok record ∧ Recorded list.fields values record.entries := by
  obtain ⟨hcount, -, hencode⟩ := encode_eq_ok_iff.mp h
  obtain ⟨hle, hlength, entries, hentries, hrecorded⟩ :=
    recorded_of_encodeFields hcount list.size_lt_of_mem hfloat list.variable_last hencode
  refine ⟨⟨entries⟩, ?_, hrecorded⟩
  rw [decode_of_length hle hlength, hentries]
  rfl

/-- An integer in little order, a matrix of integers in either form, a flag, an offset given as a
number, and a text with NUL characters at its end. -/
theorem decode_encode_mixed :
    ∃ list : FieldList,
      let values : List Value := [.signed (-2), .array [.array [.unsigned 1, .signed 2],
        .array [.signed 3, .unsigned 255]], .bool true, .unsigned 1234, .text "up\x00\x00"]
      let body : Bytes := [254, 255, 1, 2, 3, 255, 1, 0, 0, 4, 210, 117, 112, 0, 0]
      (list.fields.map Field.text =
        ["rate: i16", "grid: u8[2][2]", "ready: bool", "when: datetime", "label: str"]) ∧
      sizeOf list.fields = 11 ∧
      (∀ field ∈ list.fields, field.kind.isFloat = false) ∧
      list.encode values = .ok body ∧
      ∃ record, list.decode body = .ok record ∧ Recorded list.fields values record.entries := by
  let list : FieldList :=
    { fields := [(Field.scalar "rate" (.signed .two)).withOrder .little,
        ⟨"grid", .unsigned .one, [2, 2], .big, by decide, by decide, nofun⟩,
        .scalar "ready" .bool, .scalar "when" .timestamp, .scalar "label" .text]
      fixedSize := 11
      distinct := by decide
      variable_last := by decide
      sized := by decide }
  have hsize : sizeOf list.fields = 11 := by decide
  have hfloat : ∀ field ∈ list.fields, field.kind.isFloat = false := by decide
  have hencode : list.encode [.signed (-2), .array [.array [.unsigned 1, .signed 2],
      .array [.signed 3, .unsigned 255]], .bool true, .unsigned 1234, .text "up\x00\x00"] =
      .ok [254, 255, 1, 2, 3, 255, 1, 0, 0, 4, 210, 117, 112, 0, 0] := by
    decide +kernel
  refine ⟨list, ?_, hsize, hfloat, hencode, decode_encode hfloat hencode⟩
  decide

end FieldList

end GroundLink
