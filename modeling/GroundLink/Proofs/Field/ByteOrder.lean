import GroundLink.Proofs.Field.Conformity

/-!
# Byte orders

A field in little order has the bytes of the same field in big order, but for the bytes of each
scalar, which are reversed (`Kind.reordered`; read it first). Neither the place of a scalar nor what
is wrong with a value depends on the order. Encoding is compared by induction on the dimensions
(`encodeShape_little`), and so is decoding a string of the right length (`decodeShape_little`).
`order_reverses_scalars` puts these together: a field whose size is too large stops the program in
either order.
-/

namespace GroundLink

namespace Kind

/-- The bytes of a field with those of each scalar in reverse. What runs to the end of a body has no
order. -/
def reordered (kind : Kind) (data : Bytes) : Bytes :=
  if kind.isVariable then data
  else ((Bytes.pieces kind.elementSize data).map List.reverse).flatten

variable {kind : Kind} {data : Bytes}

/-- What has no fixed length has no order of bytes. -/
theorem reordered_of_variable (hvariable : kind.isVariable = true) (data : Bytes) :
    kind.reordered data = data := by
  rw [reordered, if_pos hvariable]

/-- Scalars of fixed length are reversed one by one. -/
theorem reordered_of_fixed (hfixed : kind.isVariable = false) (data : Bytes) :
    kind.reordered data = ((Bytes.pieces kind.elementSize data).map List.reverse).flatten := by
  rw [reordered, if_neg (Bool.eq_false_iff.mp hfixed)]

/-- No byte is lost, even if the last scalar is not complete. -/
theorem length_reordered (kind : Kind) (data : Bytes) :
    (kind.reordered data).length = data.length := by
  cases hkind : kind.isVariable with
  | true => rw [reordered_of_variable hkind]
  | false =>
      have hlengths : List.length ∘ List.reverse = (List.length : Bytes → Nat) :=
        funext fun piece => List.length_reverse
      rw [reordered_of_fixed hkind, List.length_flatten, List.map_map, hlengths,
        ← List.length_flatten, Bytes.flatten_pieces (elementSize_pos hkind)]

/-- The bytes of one scalar are reversed. -/
theorem reordered_scalar (hfixed : kind.isVariable = false)
    (hlength : data.length = kind.elementSize) : kind.reordered data = data.reverse := by
  have hpieces : Bytes.pieces kind.elementSize [data].flatten = [data] :=
    Bytes.pieces_flatten (elementSize_pos hfixed) (List.forall_mem_singleton.mpr hlength)
  rw [List.flatten_singleton] at hpieces
  rw [reordered_of_fixed hfixed, hpieces, List.map_singleton, List.flatten_singleton]

/-- Whole scalars are reversed in their place, whatever follows them. -/
theorem reordered_append {shape : List UInt64} (hfixed : kind.isVariable = false)
    (hlength : data.length = kind.size shape) (rest : Bytes) :
    kind.reordered (data ++ rest) = kind.reordered data ++ kind.reordered rest := by
  rw [kind.size_eq, Nat.mul_comm] at hlength
  rw [reordered_of_fixed hfixed, reordered_of_fixed hfixed, reordered_of_fixed hfixed,
    Bytes.pieces_append (elementSize_pos hfixed) hlength, List.map_append, List.flatten_append]

/-- The items of an array are reordered one by one. -/
theorem reordered_flatten {shape : List UInt64} {parts : List Bytes}
    (hfixed : kind.isVariable = false) (hparts : ∀ part ∈ parts, part.length = kind.size shape) :
    kind.reordered parts.flatten = (parts.map kind.reordered).flatten := by
  induction parts with
  | nil => exact List.eq_nil_of_length_eq_zero (length_reordered kind [])
  | cons part parts ih =>
      obtain ⟨hpart, hrest⟩ := List.forall_mem_cons.mp hparts
      rw [List.flatten_cons, reordered_append hfixed hpart, ih hrest]
      rfl

/-- Cutting a string into items and reordering can be done in either order. -/
theorem pieces_reordered {shape : List UInt64} {count : Nat} (hfixed : kind.isVariable = false)
    (hshape : 0 ∉ shape) (hlength : data.length = count * kind.size shape) :
    Bytes.pieces (kind.size shape) (kind.reordered data) =
      (Bytes.pieces (kind.size shape) data).map kind.reordered := by
  obtain ⟨-, hparts, hjoined⟩ := Bytes.pieces_of_length (Kind.size_pos hfixed hshape) hlength
  have hreordered := reordered_flatten hfixed hparts
  rw [hjoined] at hreordered
  rw [hreordered]
  refine Bytes.pieces_flatten (Kind.size_pos hfixed hshape) (List.forall_mem_map.mpr ?_)
  exact fun part hpart => (length_reordered kind part).trans (hparts part hpart)

end Kind

namespace Field

variable {field : Field} {data : Bytes}

/-! ## Encoding -/

/-- A word has its bytes the other way round in the other order. -/
theorem wordBytes_little (field : Field) (n : Nat) (hfixed : field.isVariable = false) :
    (field.withOrder .little).wordBytes field.kind.elementSize n =
      field.kind.reordered ((field.withOrder .big).wordBytes field.kind.elementSize n) :=
  (Kind.reordered_scalar hfixed (length_wordBytes (field.withOrder .big) _ n)).symm

/-- So has an integer, and it is refused in the one order if it is in the other. -/
theorem encodeInt_little (field : Field) (low high n : Int) (hfixed : field.isVariable = false) :
    (field.withOrder .little).encodeInt field.kind.elementSize low high n =
      ((field.withOrder .big).encodeInt field.kind.elementSize low high n).map
        field.kind.reordered := by
  unfold encodeInt
  split
  case isTrue => exact congrArg Except.ok (field.wordBytes_little _ hfixed)
  case isFalse => rfl

/-- The bytes of a scalar are reversed; a scalar that is refused is refused for the same fault. -/
theorem encodeScalar_little (field : Field) (value : Value) :
    (field.withOrder .little).encodeScalar value =
      ((field.withOrder .big).encodeScalar value).map field.kind.reordered := by
  obtain ⟨name, kind, shape, order, h1, h2, h3⟩ := field
  cases kind with
  | unsigned w | signed w =>
      cases value with
      | unsigned n | signed n =>
          exact encodeInt_little ⟨name, _, shape, order, h1, h2, h3⟩ _ _ _ rfl
      | float | bool | timestamp | bytes | text | array => rfl
  | float32 | float64 =>
      cases value with
      | unsigned n | signed n | float d =>
          exact congrArg Except.ok (wordBytes_little ⟨name, _, shape, order, h1, h2, h3⟩ _ rfl)
      | bool | timestamp | bytes | text | array => rfl
  | bool =>
      cases value with
      | bool b =>
          have hbyte : Kind.bool.reordered [if b then 1 else 0] = [if b then 1 else 0] :=
            Kind.reordered_scalar rfl rfl
          exact congrArg Except.ok hbyte.symm
      | unsigned | signed | float | timestamp | bytes | text | array => rfl
  | timestamp =>
      cases value with
      | unsigned n | signed n =>
          exact encodeInt_little ⟨name, _, shape, order, h1, h2, h3⟩ _ _ _ rfl
      | timestamp t =>
          exact congrArg Except.ok (wordBytes_little ⟨name, _, shape, order, h1, h2, h3⟩ _ rfl)
      | float | bool | bytes | text | array => rfl
  | bytes =>
      cases value with
      | bytes data => exact congrArg Except.ok (Kind.reordered_of_variable rfl data).symm
      | unsigned | signed | float | bool | timestamp | text | array => rfl
  | text =>
      cases value with
      | text s => exact congrArg Except.ok (Kind.reordered_of_variable rfl (utf8 s)).symm
      | unsigned | signed | float | bool | timestamp | bytes | array => rfl

/-- The scalars of an array are reversed in their places. -/
theorem encodeShape_little (hfixed : field.isVariable = false) (shape : List UInt64)
    (value : Value) :
    (field.withOrder .little).encodeShape shape value =
      ((field.withOrder .big).encodeShape shape value).map field.kind.reordered := by
  induction shape generalizing value with
  | nil => exact field.encodeScalar_little value
  | cons dimension rest ih =>
      cases value with
      | array items =>
          rw [encodeShape, encodeShape]
          split
          case isTrue =>
            rw [mapM_of_map fun item _ => ih item]
            cases hparts : items.mapM ((field.withOrder .big).encodeShape rest) with
            | error e => rfl
            | ok parts =>
                -- every part consists of whole scalars
                have hsizes : ∀ part ∈ parts, part.length = field.kind.size rest := by
                  intro part hpart
                  obtain ⟨item, -, hitem⟩ :=
                    exists_of_forall₂ (forall₂_of_mapM hparts).flip part hpart
                  have hverdict : (field.withOrder .big).Verdict rest item (.ok part) :=
                    hitem ▸ shape_verdict _ rest item
                  exact hverdict.of_ok.2 hfixed
                exact congrArg Except.ok (Kind.reordered_flatten hfixed hsizes).symm
          case isFalse => rfl
      | unsigned | signed | float | bool | timestamp | bytes | text => rfl

/-! ## Decoding -/

/-- A scalar is read in the one order as its reversed bytes are in the other. -/
theorem decodeScalar_little (field : Field) (hlength : data.length = field.kind.elementSize) :
    (field.withOrder .little).decodeScalar data =
      (field.withOrder .big).decodeScalar (field.kind.reordered data) := by
  obtain ⟨name, kind, shape, order, h1, h2, h3⟩ := field
  cases kind with
  | bytes | text => exact congrArg Value.bytes (Kind.reordered_of_variable rfl data).symm
  | unsigned | signed | float32 | float64 | bool | timestamp =>
      rw [Kind.reordered_scalar rfl hlength]
      rfl

/-- A string of the right length is read with the bytes of its scalars reversed. -/
theorem decodeShape_little {shape : List UInt64} (hfixed : field.isVariable = false)
    (hshape : 0 ∉ shape) (hlength : data.length = field.kind.size shape) :
    (field.withOrder .little).decodeShape shape data =
      (field.withOrder .big).decodeShape shape (field.kind.reordered data) := by
  induction shape generalizing data with
  | nil => exact field.decodeScalar_little hlength
  | cons dimension rest ih =>
      obtain ⟨hdimension, hrest⟩ := List.ne_and_not_mem_of_not_mem_cons hshape
      have hpositive : 0 < dimension.toNat :=
        Nat.pos_of_ne_zero fun hzero => hdimension (UInt64.toNat_inj.mp hzero).symm
      have hsize : data.length / dimension.toNat = field.kind.size rest := by
        rw [hlength]
        exact Nat.mul_div_cancel_left _ hpositive
      obtain ⟨-, hparts, -⟩ := Bytes.pieces_of_length (Kind.size_pos hfixed hrest) hlength
      rw [decodeShape, decodeShape, Kind.length_reordered, hsize,
        Kind.pieces_reordered hfixed hrest hlength, List.map_map]
      exact congrArg Value.array
        (List.map_congr_left fun part hpart => ih hrest (hparts part hpart))

/-- A string is decoded in little order as it is in big order with the bytes of its scalars
reversed. -/
theorem decode_little (field : Field) (data : Bytes) :
    (field.withOrder .little).decode data =
      (field.withOrder .big).decode (field.kind.reordered data) := by
  have hsame := field.kind.length_reordered data
  cases hvariable : field.isVariable with
  | true =>
      rw [Kind.reordered_of_variable hvariable]
      obtain ⟨name, kind, shape, order, h1, h2, h3⟩ := field
      cases kind with
      | bytes | text => rfl
      | unsigned | signed | float32 | float64 | bool | timestamp => cases hvariable
  | false =>
      have hdecode (order : ByteOrder) (bytes : Bytes) :
          (field.withOrder order).decode bytes = field.byteSize.elim (.error .overflow) fun size =>
            if bytes.length = size.toNat then
              .ok ((field.withOrder order).decodeShape field.shape bytes)
            else .error (.length field.name size bytes.length) :=
        (field.withOrder order).decode_eq_of_fixed hvariable bytes
      rw [hdecode, hdecode, hsame]
      cases hsize : field.byteSize with
      | none => rfl
      | some size =>
          show ite _ _ _ = ite _ _ _
          split
          case isTrue hlength =>
            exact congrArg Except.ok (decodeShape_little hvariable field.shape_nonzero
              (hlength.trans (byteSize_eq_some_iff.mp hsize)))
          case isFalse => rfl

/-! ## Fields -/

/-- The order of a field decides about nothing but the order of the bytes in each scalar. A value is
encoded in little order exactly if it is in big order, and otherwise refused for the same fault; the
bytes of its scalars are reversed. Bytes are decoded as they are in big order when the bytes of
their scalars are reversed. -/
theorem order_reverses_scalars (field : Field) :
    (∀ value, (field.withOrder .little).encode value =
      ((field.withOrder .big).encode value).map field.kind.reordered) ∧
    ∀ data : Bytes, (field.withOrder .little).decode data =
      (field.withOrder .big).decode (field.kind.reordered data) := by
  refine ⟨fun value => ?_, field.decode_little⟩
  have hinto : (field.withOrder .little).encodeInto value =
      ((field.withOrder .big).encodeInto value).map field.kind.reordered := by
    cases hvariable : field.isVariable with
    | true =>
        show encodeShape _ field.shape value = (encodeShape _ field.shape value).map _
        rw [field.variable_scalar hvariable]
        exact field.encodeScalar_little value
    | false => exact encodeShape_little hvariable field.shape value
  -- the buffer is the same for both orders
  by_cases hsize : field.size < 2 ^ 63
  case pos =>
    have hencode (order : ByteOrder) :
        (field.withOrder order).encode value = (field.withOrder order).encodeInto value :=
      (field.withOrder order).encode_of_size_lt hsize value
    rw [hencode, hencode, hinto]
  case neg =>
    have hencode (order : ByteOrder) :
        (field.withOrder order).encode value = .error .overflow :=
      (field.withOrder order).encode_of_size_le (Nat.not_lt.mp hsize) value
    rw [hencode, hencode]
    rfl

/-- The rows of a matrix stay where they are, and so do the scalars in them. -/
theorem order_reverses_scalars_matrix :
    ∃ field : Field,
      let value : Value :=
        .array [.array [.unsigned 1, .unsigned 2], .array [.unsigned 3, .unsigned 258]]
      field.text = "grid: u16[2][2]" ∧
      (field.withOrder .big).encode value = .ok [0, 1, 0, 2, 0, 3, 1, 2] ∧
      (field.withOrder .little).encode value = .ok [1, 0, 2, 0, 3, 0, 2, 1] ∧
      (field.withOrder .little).decode [1, 0, 2, 0, 3, 0, 2, 1] =
        (field.withOrder .big).decode [0, 1, 0, 2, 0, 3, 1, 2] := by
  let field : Field := ⟨"grid", .unsigned .two, [2, 2], .big, by decide, by decide, nofun⟩
  have hbig : (field.withOrder .big).encode
      (.array [.array [.unsigned 1, .unsigned 2], .array [.unsigned 3, .unsigned 258]]) =
      .ok [0, 1, 0, 2, 0, 3, 1, 2] := by
    decide +kernel
  obtain ⟨hencode, hdecode⟩ := field.order_reverses_scalars
  refine ⟨field, by decide, hbig, ?_, ?_⟩
  · rw [hencode, hbig]
    decide +kernel
  · have hreordered : field.kind.reordered [1, 0, 2, 0, 3, 0, 2, 1] = [0, 1, 0, 2, 0, 3, 1, 2] := by
      decide +kernel
    rw [hdecode, hreordered]

end Field

end GroundLink
