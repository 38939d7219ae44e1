import GroundLink.Proofs.Field.Integer
import GroundLink.Proofs.Field.Normal
import GroundLink.Proofs.Json
import GroundLink.Proofs.Timestamp

/-!
# Values from what is printed

A value that was decoded is printed in words or in a data document, and read from there. What is
read need not be the same value, as a number without a sign is read where one with a sign was
printed; but the encoder makes no difference between the two (`Field.Restores`; read it first).
Documents are taken value by value (`restores_document`), and the words for an array of numbers or
flags are a document (`readAs_display`). `reads_displayed` and `reads_document` say that the bytes
of what is read are decoded to the value that was printed.
-/

namespace GroundLink

/-- Kinds whose values are printed in a document as they are in words. -/
def Kind.isBare : Kind → Bool
  | unsigned _ | signed _ | bool => true
  | _ => false

/-- A kind that is written bare is no float, no bytes and no text. -/
theorem Kind.sort_of_bare {kind : Kind} (h : kind.isBare = true) :
    kind.isFloat = false ∧ kind ≠ .bytes ∧ kind ≠ .text := by
  cases kind with
  | unsigned | signed | bool => exact ⟨rfl, nofun, nofun⟩
  | float32 | float64 | timestamp | bytes | text => cases h

/-- The scalars that a field of the kind gives, floats apart. -/
inductive Kind.Gives (kind : Kind) : Value → Prop
  | int {value : Value} {n : Int} (hinteger : kind.isUnsigned = true ∨ kind.isSigned = true)
      (h : value.int? = some n) : Gives kind value
  | bool (hkind : kind = .bool) (b : Bool) : Gives kind (.bool b)
  | timestamp (hkind : kind = .timestamp) (t : Timestamp) : Gives kind (.timestamp t)
  | bytes (hkind : kind = .bytes) (data : Bytes) : Gives kind (.bytes data)
  | text (hkind : kind = .text) (s : String) : Gives kind (.text s)

/-- A canonical form is a value that the kind gives. -/
theorem Kind.Canonical.gives {kind : Kind} {value result : Value}
    (h : kind.Canonical value result) :
    kind.Gives result := by
  cases h with
  | unsigned => exact .int (.inl rfl) rfl
  | signed => exact .int (.inr rfl) rfl
  | bool b => exact .bool rfl b
  | timestamp t => exact .timestamp rfl t
  | @seconds _ t => exact .timestamp rfl t
  | bytes data => exact .bytes rfl data
  | @text _ t => exact .text rfl t

namespace Value

/-- The texts of an array are those of its items. -/
@[simp]
theorem displayAll_eq_map (items : List Value) : display.displayAll items = items.map display := by
  induction items with
  | nil => rfl
  | cons item rest ih => rw [display.displayAll, ih, List.map_cons]

/-- The document of an array holds those of its items. -/
@[simp]
theorem toJsonAll_eq_map (items : List Value) : toJson.toJsonAll items = items.map toJson := by
  induction items with
  | nil => rfl
  | cons item rest ih => rw [toJson.toJsonAll, ih, List.map_cons]

/-- How a value is printed that stands for an integer, and how large it may be. -/
theorem printed_of_int? {value : Value} {n : Int} (h : value.int? = some n) :
    value.display = toString n ∧ value.toJson = .int n ∧ -2 ^ 63 ≤ n ∧ n < 2 ^ 64 := by
  cases value with
  | unsigned m =>
      obtain rfl := Option.some.inj h
      have hlt := m.toNat_lt
      exact ⟨rfl, rfl, by omega, by omega⟩
  | signed m =>
      obtain rfl := Option.some.inj h
      have hle := m.le_toInt
      have hlt := m.toInt_lt
      exact ⟨rfl, rfl, by omega, by omega⟩
  | float | bool | timestamp | bytes | text | array => cases h

end Value

namespace Field

variable {field : Field} {value : Value} {shape : List UInt64} {reading : Except EncodeError Value}

/-- The items of a list are read one by one. -/
@[simp]
theorem ofJsonItems_eq_mapM (field : Field) (items : List Json) :
    ofJson.ofJsonItems field items = items.mapM field.ofJson := by
  induction items with
  | nil => rfl
  | cons item rest ih =>
      rw [ofJson.ofJsonItems, ih, List.mapM_cons]

/-- Reading succeeds, and gives what the encoder takes for the value. -/
def Restores (field : Field) (shape : List UInt64) (value : Value)
    (reading : Except EncodeError Value) : Prop :=
  ∃ result, reading = .ok result ∧ field.encodeShape shape result = field.encodeShape shape value

/-! ## Scalars -/

/-- The encoder asks an integer for its number only. -/
theorem restores_int {n : Int}
    (hinteger : field.kind.isUnsigned = true ∨ field.kind.isSigned = true)
    (h : value.int? = some n) : field.Restores [] value (.ok (.ofInt n)) := by
  obtain ⟨-, -, hlow, hhigh⟩ := Value.printed_of_int? h
  have hsame := (Value.int?_ofInt hlow hhigh).trans h.symm
  refine ⟨_, rfl, ?_⟩
  show field.encodeScalar _ = field.encodeScalar _
  unfold encodeScalar
  obtain ⟨w, hkind | hkind⟩ := Kind.exists_width hinteger
  all_goals
    rw [hkind]
    dsimp only
    rw [hsame, h]

/-- A reading that gives the value back restores it. -/
theorem restores_of_eq (h : reading = .ok value) : field.Restores shape value reading :=
  ⟨value, h, rfl⟩

/-- A whole number is taken as it is by all kinds but floats. -/
theorem ofJson_int (hfloat : field.kind.isFloat = false) (n : Int) :
    field.ofJson (.int n) = .ok (.ofInt n) := by
  rw [ofJson, hfloat, if_neg Bool.false_ne_true, Value.ofInt, apply_ite Except.ok]

/-- A scalar is read from a document. -/
theorem restores_scalar_document (hbytes : field.kind ≠ .bytes) (h : field.kind.Gives value) :
    field.Restores [] value (field.ofJson value.toJson) := by
  cases h with
  | int hinteger hn =>
      have hfloat : field.kind.isFloat = false := by
        obtain ⟨w, hkind | hkind⟩ := Kind.exists_width hinteger <;> rw [hkind] <;> rfl
      rw [(Value.printed_of_int? hn).2.1, ofJson_int hfloat]
      exact restores_int hinteger hn
  | bool => exact restores_of_eq rfl
  | timestamp hkind t =>
      refine restores_of_eq ?_
      rw [Value.toJson, ofJson, readScalar, hkind]
      dsimp only
      rw [Timestamp.read_text]
  | bytes hkind => exact absurd hkind hbytes
  | text hkind s =>
      refine restores_of_eq ?_
      rw [Value.toJson, ofJson, readScalar, hkind]

/-- A scalar is read from its words. -/
theorem restores_scalar_words (hscalar : field.shape = []) (htext : field.kind ≠ .text)
    (h : field.kind.Gives value) : field.Restores [] value (field.read value.display) := by
  rw [read_of_scalar hscalar]
  cases h with
  | @int _ n hinteger hn =>
      obtain ⟨hdisplay, -, hlow, hhigh⟩ := Value.printed_of_int? hn
      obtain ⟨hwrites, hplus⟩ := Numeral.writesInt_toString n
      rw [hdisplay, readScalar_of_integer hinteger,
        field.readInt_of_writesInt hwrites hplus hlow hhigh]
      exact restores_int hinteger hn
  | bool hkind b =>
      refine restores_of_eq ?_
      rw [readScalar, hkind]
      cases b <;> with_unfolding_all rfl
  | timestamp hkind t =>
      refine restores_of_eq ?_
      rw [Value.display, Text.trimmed_of_visible t.visible_text, readScalar, hkind]
      dsimp only
      rw [Timestamp.read_text]
  | bytes hkind data =>
      refine restores_of_eq ?_
      have hwords : (Value.bytes data).display.toList = '0' :: 'x' :: (Text.hex data).toList := by
        rw [Value.display, String.toList_append]
        rfl
      have hmark : Text.Visible ['0', 'x'] := by decide
      have hvisible : Text.Visible (Value.bytes data).display.toList :=
        hwords ▸ hmark.append (Text.visible_of_hex data)
      rw [Text.trimmed_of_visible hvisible, readScalar, hkind]
      simp only [hwords, String.ofList_toList, Text.readHex_hex]
  | text hkind => exact absurd hkind htext

/-! ## Arrays -/

/-- The items of an array are read, and what is read is encoded as they are. -/
theorem restores_items {items : List Value}
    (h : ∀ item ∈ items, field.Restores shape item (field.ofJson item.toJson)) :
    ∃ results, (items.map Value.toJson).mapM field.ofJson = .ok results ∧
      results.length = items.length ∧
      results.mapM (field.encodeShape shape) = items.mapM (field.encodeShape shape) := by
  induction items with
  | nil => exact ⟨[], rfl, rfl, rfl⟩
  | cons item rest ih =>
      obtain ⟨⟨result, hread, hsame⟩, hrest⟩ := List.forall_mem_cons.mp h
      obtain ⟨results, hreads, hlength, hsames⟩ := ih hrest
      refine ⟨result :: results, ?_, congrArg (· + 1) hlength, ?_⟩
      · rw [List.map_cons, List.mapM_cons, hread, hreads]
        rfl
      · rw [List.mapM_cons, List.mapM_cons, hsame, hsames]

/-- A value is read from a document, item by item. -/
theorem restores_document (hbytes : field.kind ≠ .bytes)
    (h : field.kind.CanonicalAt shape value value) :
    field.Restores shape value (field.ofJson value.toJson) := by
  induction shape generalizing value with
  | nil => exact restores_scalar_document hbytes (Kind.Canonical.gives h)
  | cons dimension rest ih =>
      cases value with
      | array items =>
          obtain ⟨-, hitems⟩ := h
          obtain ⟨results, hreads, hlength, hsames⟩ :=
            restores_items fun item hitem => ih (List.forall₂_same.mp hitems item hitem)
          refine ⟨.array results, ?_, ?_⟩
          · rw [Value.toJson, Value.toJsonAll_eq_map, ofJson, ofJsonItems_eq_mapM, hreads]
            rfl
          · rw [encodeShape, encodeShape, hlength, hsames]
      | unsigned | signed | float | bool | timestamp | bytes | text => exact absurd h id

/-- The words for numbers and flags are a document, and so are those for arrays of these. -/
theorem readAs_display (hbare : field.kind.isBare = true) (hshape : 0 ∉ shape)
    (h : field.kind.CanonicalAt shape value value) :
    value.toJson.ReadAs shape.length value.display.toList := by
  induction shape generalizing value with
  | nil =>
      cases Kind.Canonical.gives h with
      | int _ hn =>
          obtain ⟨hdisplay, hjson, hlow, hhigh⟩ := Value.printed_of_int? hn
          rw [hdisplay, hjson]
          exact Json.readAs_int hlow hhigh
      | bool _ b => exact Json.readAs_bool b
      | timestamp hkind | bytes hkind | text hkind =>
          rw [hkind] at hbare
          cases hbare
  | cons dimension rest ih =>
      obtain ⟨hdimension, hrest⟩ := List.ne_and_not_mem_of_not_mem_cons hshape
      cases value with
      | array items =>
          obtain ⟨hlength, hitems⟩ := h
          have hne : items.map Value.toJson ≠ [] := by
            rintro hnil
            rw [List.map_eq_nil_iff.mp hnil] at hlength
            exact hdimension (UInt64.toNat_inj.mp hlength)
          have hread : List.Forall₂ (fun item text => item.ReadAs rest.length text)
              (items.map Value.toJson) (items.map fun item => item.display.toList) := by
            rw [List.forall₂_map_left_iff, List.forall₂_map_right_iff, List.forall₂_same]
            exact fun item hitem => ih hrest (List.forall₂_same.mp hitems item hitem)
          have hwords : (Value.array items).display.toList =
              '[' :: ([',', ' '].intercalate (items.map fun item => item.display.toList) ++
                [']']) := by
            rw [Value.display, Value.displayAll_eq_map, String.toList_append, String.toList_append,
              String.toList_intercalate, List.map_map]
            rfl
          rw [hwords, Value.toJson, Value.toJsonAll_eq_map]
          exact Json.readAs_array hread hne
      | unsigned | signed | float | bool | timestamp | bytes | text => exact absurd h id

/-! ## Fields -/

/-- The bytes that an encoder writes for a decoded value are decoded to this value. -/
theorem decode_normal {data : Bytes} (hfloat : field.kind.isFloat = false)
    (h : field.decode data = .ok value) :
    field.decode (field.kind.normal data) = .ok value := by
  obtain ⟨hencode, hcanonical⟩ := encodeInto_of_decode hfloat h
  have hagain : ∃ result, field.decode (field.kind.normal data) = .ok result ∧
      field.kind.CanonicalAt field.shape value result := by
    cases hvariable : field.isVariable with
    | false =>
        obtain ⟨hsize, -⟩ := fixed_of_decode_eq_ok hvariable h
        exact (fixed_of_encodeInto hvariable hfloat hsize hencode).2
    | true => exact variable_of_encodeInto hvariable hencode
  obtain ⟨result, hresult, hsame⟩ := hagain
  rw [hresult, Kind.canonicalAt_unique hsame hcanonical]

/-- If the bytes of a field are in memory, the buffer for them can be reserved. -/
theorem size_lt_of_decode {data : Bytes} (hmemory : field.size < 2 ^ 63 ∨ data.length < 2 ^ 63)
    (h : field.decode data = .ok value) : field.size < 2 ^ 63 := by
  cases hvariable : field.isVariable with
  | true =>
      rw [size_of_variable hvariable]
      decide
  | false =>
      obtain ⟨-, hlength, -⟩ := fixed_of_decode_eq_ok hvariable h
      exact hmemory.elim id fun hshort => hlength ▸ hshort

/-- What is read for a decoded value is encoded as the value is. -/
theorem encode_of_restores {data : Bytes} (hfloat : field.kind.isFloat = false)
    (hmemory : field.size < 2 ^ 63 ∨ data.length < 2 ^ 63) (h : field.decode data = .ok value)
    (hrestores : field.Restores field.shape value reading) :
    ∃ result, reading = .ok result ∧ field.encode result = .ok (field.kind.normal data) ∧
      field.decode (field.kind.normal data) = .ok value := by
  obtain ⟨result, hread, hsame⟩ := hrestores
  refine ⟨result, hread, ?_, decode_normal hfloat h⟩
  rw [field.encode_of_size_lt (size_lt_of_decode hmemory h)]
  exact hsame.trans (encodeInto_of_decode hfloat h).1

/-- What is displayed for a decoded value is read again, and what is read is encoded to bytes that
are decoded to this value: a scalar that is an integer, a flag, a timestamp or a string of bytes, or
an array of integers or flags. The bytes have to be in memory, where no string has 2⁶³ bytes. -/
theorem reads_displayed {data : Bytes}
    (hkind : field.kind.isBare = true ∨
      field.shape = [] ∧ (field.kind = .timestamp ∨ field.kind = .bytes))
    (hmemory : field.size < 2 ^ 63 ∨ data.length < 2 ^ 63)
    (h : field.decode data = .ok value) :
    ∃ result, field.read value.display = .ok result ∧
      field.encode result = .ok (field.kind.normal data) ∧
      field.decode (field.kind.normal data) = .ok value := by
  have hfloat : field.kind.isFloat = false := by
    rcases hkind with hbare | ⟨-, hkind | hkind⟩
    · exact (Kind.sort_of_bare hbare).1
    all_goals rw [hkind]; rfl
  have hcanonical := (encodeInto_of_decode hfloat h).2
  refine encode_of_restores hfloat hmemory h ?_
  by_cases hscalar : field.shape = []
  case pos =>
    have htext : field.kind ≠ .text := by
      rcases hkind with hbare | ⟨-, hkind | hkind⟩
      · exact (Kind.sort_of_bare hbare).2.2
      all_goals rw [hkind]; exact nofun
    rw [hscalar] at hcanonical ⊢
    exact restores_scalar_words hscalar htext (Kind.Canonical.gives hcanonical)
  case neg =>
    have hbare := hkind.resolve_right fun hother => hscalar hother.1
    have hdocument : Json.read value.display = .ok value.toJson :=
      Json.read_of_readAs (readAs_display hbare field.shape_nonzero hcanonical)
        (Nat.lt_of_le_of_lt field.shape_length (by decide))
    have hread : field.read value.display = field.ofJson value.toJson := by
      rw [read, isArray, List.isEmpty_eq_false_iff.mpr hscalar, hdocument]
      rfl
    rw [hread]
    exact restores_document (Kind.sort_of_bare hbare).2.1 hcanonical

/-- A negative integer comes back with a sign and the other one without, and both are encoded as
they were. -/
theorem reads_displayed_signs :
    ∃ field : Field, ∃ result, field.text = "rates: i16[2]" ∧ field.size < 2 ^ 63 ∧
      field.decode [255, 254, 0, 7] = .ok (.array [.signed (-2), .signed 7]) ∧
      (Value.array [.signed (-2), .signed 7]).display = "[-2, 7]" ∧
      field.read "[-2, 7]" = .ok result ∧ field.encode result = .ok [255, 254, 0, 7] := by
  let field : Field := ⟨"rates", .signed .two, [2], .big, by decide, by decide, nofun⟩
  have hsize : field.size < 2 ^ 63 := by decide
  have hdecode : field.decode [255, 254, 0, 7] = .ok (.array [.signed (-2), .signed 7]) := by
    with_unfolding_all rfl
  have hdisplay : (Value.array [.signed (-2), .signed 7]).display = "[-2, 7]" := by cbv
  obtain ⟨result, hread, hencode, -⟩ := reads_displayed (.inl rfl) (.inl hsize) hdecode
  rw [hdisplay] at hread
  exact ⟨field, result, by decide, hsize, hdecode, hdisplay, hread, hencode⟩

/-- What is written in a data document for a decoded value is read from it, and what is read is
encoded to bytes that are decoded to this value: integers, flags and timestamps, and arrays of them,
and texts. The bytes have to be in memory, as in `reads_displayed`. -/
theorem reads_document {data : Bytes}
    (hkind : field.kind.isBare = true ∨ field.kind = .timestamp ∨ field.kind = .text)
    (hmemory : field.size < 2 ^ 63 ∨ data.length < 2 ^ 63)
    (h : field.decode data = .ok value) :
    ∃ result, field.ofJson value.toJson = .ok result ∧
      field.encode result = .ok (field.kind.normal data) ∧
      field.decode (field.kind.normal data) = .ok value := by
  have hsort : field.kind.isFloat = false ∧ field.kind ≠ .bytes := by
    rcases hkind with hbare | hkind | hkind
    · exact ⟨(Kind.sort_of_bare hbare).1, (Kind.sort_of_bare hbare).2.1⟩
    all_goals rw [hkind]; exact ⟨rfl, nofun⟩
  have hcanonical := (encodeInto_of_decode hsort.1 h).2
  exact encode_of_restores hsort.1 hmemory h (restores_document hsort.2 hcanonical)

/-- The marker for execution at once, and a date. -/
theorem reads_document_times :
    ∃ field : Field, ∃ result, field.text = "times: datetime[2]" ∧ field.size < 2 ^ 63 ∧
      field.decode [0, 0, 0, 0, 0, 0, 0, 1] = .ok (.array [.timestamp ⟨0⟩, .timestamp ⟨1⟩]) ∧
      (Value.array [.timestamp ⟨0⟩, .timestamp ⟨1⟩]).toJson =
        .array [.string "immediate", .string "2000-01-01T00:00:01Z"] ∧
      field.ofJson (.array [.string "immediate", .string "2000-01-01T00:00:01Z"]) = .ok result ∧
      field.encode result = .ok [0, 0, 0, 0, 0, 0, 0, 1] := by
  let field : Field := ⟨"times", .timestamp, [2], .big, by decide, by decide, nofun⟩
  have hsize : field.size < 2 ^ 63 := by decide
  have hdecode : field.decode [0, 0, 0, 0, 0, 0, 0, 1] =
      .ok (.array [.timestamp ⟨0⟩, .timestamp ⟨1⟩]) := by
    with_unfolding_all rfl
  have hjson : (Value.array [.timestamp ⟨0⟩, .timestamp ⟨1⟩]).toJson =
      .array [.string "immediate", .string "2000-01-01T00:00:01Z"] := by
    cbv
  obtain ⟨result, hread, hencode, -⟩ := reads_document (.inr (.inl rfl)) (.inl hsize) hdecode
  rw [hjson] at hread
  exact ⟨field, result, by decide, hsize, hdecode, hjson, hread, hencode⟩

end Field

end GroundLink
