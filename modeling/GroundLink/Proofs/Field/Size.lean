import GroundLink.Field.List
import GroundLink.Proofs.Bytes
import GroundLink.Proofs.Except
import Mathlib.Algebra.BigOperators.Group.List.Basic
import Mathlib.Algebra.Order.Ring.Nat

/-!
# Sizes as words

The number of scalars, the size of a field and the size of a body are held in 64-bit words, and
computed step by step with checked arithmetic. A chain of checked steps comes to an end exactly if
the result fits a word, whatever is computed on the way, because no dimension is empty: the words
are what they stand for (`elementCount_eq_some_iff`, `byteSize_eq_some_iff`,
`addSizes_eq_some_iff`). The decoder relies on them, since it cuts the bytes of an array by dividing
their number. `sizes_are_exact` puts this together for every list of fields that is accepted; read
`Kind.size` and `Bytes.CutsBy` first.
-/

namespace GroundLink

/-- A number has a word exactly if the word stands for it. -/
theorem Word.ofNat?_eq_some_iff {n : Nat} {word : UInt64} :
    ofNat? n = some word ↔ word.toNat = n := by
  unfold ofNat?
  split
  case isTrue hfits =>
    rw [Option.some.injEq, ← UInt64.toNat_inj, UInt64.toNat_ofNat_of_lt' hfits]
    exact eq_comm
  case isFalse hlarge =>
    refine ⟨nofun, fun h => ?_⟩
    have := word.toNat_lt
    omega

/-- A number that fits a word has one. -/
theorem Word.exists_of_lt {n : Nat} (h : n < 2 ^ 64) : ∃ word : UInt64, word.toNat = n :=
  ⟨UInt64.ofNat n, UInt64.toNat_ofNat_of_lt' h⟩

/-! ## Values of fixed length -/

/-- The bytes of a value of fixed length that is nested as dimensions say. -/
def Kind.size (kind : Kind) : List UInt64 → Nat
  | [] => kind.elementSize
  | dimension :: rest => dimension.toNat * kind.size rest

/-- Each scalar takes its bytes. -/
theorem Kind.size_eq (kind : Kind) (shape : List UInt64) :
    kind.size shape = kind.elementSize * (shape.map UInt64.toNat).prod := by
  induction shape with
  | nil => exact (Nat.mul_one _).symm
  | cons dimension rest ih =>
      rw [Kind.size, ih, List.map_cons, List.prod_cons, Nat.mul_left_comm]

/-- A scalar of fixed length takes some bytes. -/
theorem Kind.elementSize_pos {kind : Kind} (hfixed : kind.isVariable = false) :
    0 < kind.elementSize := by
  cases kind with
  | unsigned w | signed w => cases w <;> decide
  | float32 | float64 | bool | timestamp => decide
  | bytes | text => cases hfixed

/-- There are some scalars if no dimension is empty. -/
theorem prod_pos_of_nonzero {shape : List UInt64} (hshape : 0 ∉ shape) :
    0 < (shape.map UInt64.toNat).prod := by
  induction shape with
  | nil => exact Nat.one_pos
  | cons dimension rest ih =>
      obtain ⟨hdimension, hrest⟩ := List.ne_and_not_mem_of_not_mem_cons hshape
      rw [List.map_cons, List.prod_cons]
      refine Nat.mul_pos (Nat.pos_of_ne_zero fun h => hdimension ?_) (ih hrest)
      exact (UInt64.toNat_inj.mp h).symm

/-- A value of fixed length takes some bytes, if no dimension is empty. -/
theorem Kind.size_pos {kind : Kind} {shape : List UInt64} (hfixed : kind.isVariable = false)
    (hshape : 0 ∉ shape) : 0 < kind.size shape := by
  rw [kind.size_eq]
  exact Nat.mul_pos (elementSize_pos hfixed) (prod_pos_of_nonzero hshape)

/-- Wherever an array is cut as its dimensions say, the pieces have some bytes. -/
def Bytes.CutsBy : List UInt64 → Bytes → Prop
  | [], _ => True
  | dimension :: rest, data =>
    0 < data.length / dimension.toNat ∧
      ∀ piece ∈ Bytes.pieces (data.length / dimension.toNat) data, CutsBy rest piece

/-- As many bytes as the dimensions say are never cut into empty pieces. -/
theorem Bytes.cuts_of_length {kind : Kind} {shape : List UInt64} {data : Bytes}
    (hfixed : kind.isVariable = false) (hshape : 0 ∉ shape)
    (hlength : data.length = kind.size shape) : data.CutsBy shape := by
  induction shape generalizing data with
  | nil => trivial
  | cons dimension rest ih =>
      obtain ⟨hdimension, hrest⟩ := List.ne_and_not_mem_of_not_mem_cons hshape
      have hpositive : 0 < dimension.toNat :=
        Nat.pos_of_ne_zero fun hzero => hdimension (UInt64.toNat_inj.mp hzero).symm
      have hsize : 0 < kind.size rest := Kind.size_pos hfixed hrest
      have hpiece : data.length / dimension.toNat = kind.size rest := by
        rw [hlength, Kind.size, Nat.mul_div_cancel_left _ hpositive]
      obtain ⟨-, hpieces, -⟩ := Bytes.pieces_of_length hsize hlength
      rw [CutsBy, hpiece]
      exact ⟨hsize, fun piece hmem => ih hrest (hpieces piece hmem)⟩

/-! ## Fields -/

namespace Field

variable {field : Field}

/-- The number of scalars, however large. -/
def count (field : Field) : Nat :=
  (field.shape.map UInt64.toNat).prod

/-- The bytes of a field of fixed size, however many. -/
def size (field : Field) : Nat :=
  field.kind.size field.shape

/-- Each scalar of a field takes the bytes of its kind. -/
theorem size_eq (field : Field) : field.size = field.kind.elementSize * field.count :=
  field.kind.size_eq field.shape

/-- A field of variable length has no size. -/
theorem size_of_variable (h : field.isVariable = true) : field.size = 0 := by
  unfold size
  rw [field.variable_scalar h]
  unfold isVariable at h
  cases hkind : field.kind with
  | bytes | text => rfl
  | unsigned | signed | float32 | float64 | bool | timestamp =>
      rw [hkind] at h
      cases h

/-- There are no more scalars than bytes. -/
theorem count_lt (h : field.size < 2 ^ 64) : field.count < 2 ^ 64 := by
  rw [size_eq] at h
  cases hvariable : field.isVariable with
  | true =>
      rw [count, field.variable_scalar hvariable]
      decide
  | false =>
      have helement : 0 < field.kind.elementSize := Kind.elementSize_pos hvariable
      exact Nat.lt_of_le_of_lt (Nat.le_mul_of_pos_left _ helement) h

/-- Multiplying dimensions step by step gives their product, or there is no word for it. -/
theorem foldlM_eq_some_iff {shape : List UInt64} {start count : UInt64} (hshape : 0 ∉ shape) :
    shape.foldlM (fun count dimension => Word.ofNat? (count.toNat * dimension.toNat)) start =
      some count ↔ count.toNat = start.toNat * (shape.map UInt64.toNat).prod := by
  induction shape generalizing start with
  | nil =>
      show some start = some count ↔ count.toNat = start.toNat * 1
      rw [Option.some.injEq, Nat.mul_one, eq_comm, UInt64.toNat_inj]
  | cons dimension rest ih =>
      have hrest := (List.ne_and_not_mem_of_not_mem_cons hshape).2
      rw [List.foldlM_cons, Option.bind_eq_bind, Option.bind_eq_some_iff, List.map_cons,
        List.prod_cons, ← Nat.mul_assoc]
      constructor
      · rintro ⟨next, hnext, h⟩
        rw [(ih hrest).mp h, Word.ofNat?_eq_some_iff.mp hnext]
      · intro h
        -- what is computed on the way is no larger than the result
        have hle : start.toNat * dimension.toNat ≤ count.toNat :=
          h ▸ Nat.le_mul_of_pos_right _ (prod_pos_of_nonzero hrest)
        obtain ⟨next, hnext⟩ := Word.exists_of_lt (Nat.lt_of_le_of_lt hle count.toNat_lt)
        exact ⟨next, Word.ofNat?_eq_some_iff.mpr hnext, (ih hrest).mpr (hnext ▸ h)⟩

/-- The word for the number of scalars stands for it. -/
theorem elementCount_eq_some_iff {count : UInt64} :
    field.elementCount = some count ↔ count.toNat = field.count := by
  rw [elementCount, foldlM_eq_some_iff field.shape_nonzero]
  show count.toNat = 1 * field.count ↔ _
  rw [Nat.one_mul]

/-- The word for the size of a field stands for it. -/
theorem byteSize_eq_some_iff {size : UInt64} :
    field.byteSize = some size ↔ size.toNat = field.size := by
  rw [byteSize, Option.bind_eq_bind, Option.bind_eq_some_iff, size_eq]
  constructor
  · rintro ⟨count, hcount, h⟩
    rw [Word.ofNat?_eq_some_iff.mp h, elementCount_eq_some_iff.mp hcount]
  · intro h
    have hsize : field.size < 2 ^ 64 := by
      rw [size_eq, ← h]
      exact size.toNat_lt
    obtain ⟨count, hcount⟩ := Word.exists_of_lt (count_lt hsize)
    refine ⟨count, elementCount_eq_some_iff.mpr hcount, Word.ofNat?_eq_some_iff.mpr ?_⟩
    rw [h, hcount]

/-- There is a word for the size of a field if the size fits one. -/
theorem exists_byteSize (h : field.size < 2 ^ 64) :
    ∃ size : UInt64, field.byteSize = some size ∧ size.toNat = field.size := by
  obtain ⟨size, hsize⟩ := Word.exists_of_lt h
  exact ⟨size, byteSize_eq_some_iff.mpr hsize, hsize⟩

/-- A field takes the bytes of its size, or all that are left. -/
theorem span_of_size (h : field.size < 2 ^ 64) (left : Nat) :
    field.span left = .ok (if field.isVariable then left else field.size) := by
  obtain ⟨size, hsize, hsame⟩ := exists_byteSize h
  unfold span
  cases field.isVariable with
  | true => rfl
  | false =>
      rw [if_neg Bool.false_ne_true, hsize, if_neg Bool.false_ne_true]
      exact congrArg Except.ok hsame

/-! ## What fields do with their sizes -/

variable {value : Value} {data : Bytes}

/-- A field of fixed size compares the number of bytes with its size. -/
theorem decode_eq_of_fixed (field : Field) (hfixed : field.isVariable = false) (data : Bytes) :
    field.decode data = field.byteSize.elim (.error .overflow) fun size =>
      if data.length = size.toNat then .ok (field.decodeShape field.shape data)
      else .error (.length field.name size data.length) := by
  unfold isVariable at hfixed
  unfold decode
  cases hkind : field.kind with
  | bytes | text => rw [hkind] at hfixed; cases hfixed
  | unsigned | signed | float32 | float64 | bool | timestamp => cases field.byteSize <;> rfl

/-- A field of fixed size is given its bytes. -/
theorem decode_of_fixed (hfixed : field.isVariable = false) (hsize : field.size < 2 ^ 64)
    (hlength : data.length = field.size) :
    field.decode data = .ok (field.decodeShape field.shape data) := by
  obtain ⟨size, hbytes, hsame⟩ := exists_byteSize hsize
  rw [field.decode_eq_of_fixed hfixed, hbytes]
  exact if_pos (hlength.trans hsame.symm)

/-- A field of fixed size that gives a value was given its bytes. -/
theorem fixed_of_decode_eq_ok (hfixed : field.isVariable = false)
    (h : field.decode data = .ok value) :
    field.size < 2 ^ 64 ∧ data.length = field.size ∧
      value = field.decodeShape field.shape data := by
  rw [field.decode_eq_of_fixed hfixed] at h
  cases hsize : field.byteSize with
  | none =>
      rw [hsize] at h
      cases h
  | some size =>
      have hsame := byteSize_eq_some_iff.mp hsize
      rw [hsize, Option.elim_some] at h
      split at h
      case isTrue hlength =>
        exact ⟨hsame ▸ size.toNat_lt, hlength.trans hsame, (Except.ok.inj h).symm⟩
      case isFalse => cases h

/-- A value is encoded if the buffer for it can be reserved. -/
theorem encode_of_size_lt (field : Field) (h : field.size < 2 ^ 63) (value : Value) :
    field.encode value = field.encodeInto value := by
  obtain ⟨size, hsize, hsame⟩ := exists_byteSize (Nat.lt_trans h (by decide))
  rw [encode, hsize]
  dsimp only
  rw [reserve, if_pos (hsame ▸ h)]
  rfl

/-- It is not even looked at otherwise. -/
theorem encode_of_size_le (field : Field) (h : 2 ^ 63 ≤ field.size) (value : Value) :
    field.encode value = .error .overflow := by
  rw [encode]
  cases hsize : field.byteSize with
  | none => rfl
  | some size =>
      have hsame := byteSize_eq_some_iff.mp hsize
      dsimp only
      rw [reserve, if_neg (by omega)]
      rfl

end Field

/-! ## Bodies -/

namespace FieldList

/-- The bytes of the fields of fixed size, however many. -/
def sizeOf : List Field → Nat
  | [] => 0
  | field :: fields => field.size + sizeOf fields

/-- No field is larger than all together. -/
theorem size_le_sizeOf {fields : List Field} :
    ∀ field ∈ fields, field.size ≤ sizeOf fields := by
  induction fields with
  | nil => exact List.forall_mem_nil _
  | cons first fields ih =>
      exact List.forall_mem_cons.mpr ⟨Nat.le_add_right _ _, fun field hfield =>
        Nat.le_trans (ih field hfield) (Nat.le_add_left _ _)⟩

/-- Adding sizes step by step gives their sum, or there is no word for it. -/
theorem addSizes_eq_some_iff {fields : List Field} {start total : UInt64} :
    Field.addSizes start fields = some total ↔ total.toNat = start.toNat + sizeOf fields := by
  induction fields generalizing start with
  | nil =>
      show some start = some total ↔ total.toNat = start.toNat + 0
      rw [Option.some.injEq, Nat.add_zero, eq_comm, UInt64.toNat_inj]
  | cons field fields ih =>
      rw [Field.addSizes, List.foldlM_cons, Option.bind_eq_bind, Option.bind_eq_some_iff, sizeOf,
        ← Nat.add_assoc]
      constructor
      · rintro ⟨next, hnext, h⟩
        obtain ⟨size, hsize, hsum⟩ := Option.bind_eq_some_iff.mp hnext
        rw [ih.mp h, Word.ofNat?_eq_some_iff.mp hsum, Field.byteSize_eq_some_iff.mp hsize]
      · intro h
        have hlt := total.toNat_lt
        obtain ⟨size, hsize, hsame⟩ := Field.exists_byteSize (by omega : field.size < 2 ^ 64)
        obtain ⟨next, hnext⟩ := Word.exists_of_lt (by omega : start.toNat + size.toNat < 2 ^ 64)
        refine ⟨next, Option.bind_eq_some_iff.mpr ⟨size, hsize, ?_⟩, ih.mpr ?_⟩
        · exact Word.ofNat?_eq_some_iff.mpr hnext
        · rw [h, hnext, hsame]

/-- A list holds the size of its fields. -/
theorem fixedSize_toNat (list : FieldList) : list.fixedSize.toNat = sizeOf list.fields := by
  have hsum := addSizes_eq_some_iff.mp list.sized
  rw [hsum]
  exact Nat.zero_add _

/-- So the size of a list fits a word. -/
theorem sizeOf_lt (list : FieldList) : sizeOf list.fields < 2 ^ 64 :=
  list.fixedSize_toNat ▸ list.fixedSize.toNat_lt

/-- So the size of each field of a list fits a word. -/
theorem size_lt_of_mem (list : FieldList) : ∀ field ∈ list.fields, field.size < 2 ^ 64 :=
  fun field hfield => Nat.lt_of_le_of_lt (size_le_sizeOf field hfield) list.sizeOf_lt

/-- The size that a list holds is known from its fields. -/
theorem ext_fields {list other : FieldList} (h : list.fields = other.fields) : list = other := by
  have hsize : list.fixedSize = other.fixedSize :=
    Option.some.inj (list.sized.symm.trans (h ▸ other.sized))
  cases list
  cases other
  obtain rfl : _ = _ := h
  obtain rfl : _ = _ := hsize
  rfl

/-- Fields that pass the check make a body if their sizes add up to a word. -/
theorem ofFields_eq_ok_iff {fields : List Field} {list : FieldList} :
    ofFields fields = .ok list ↔ list.fields = fields := by
  constructor
  · intro h
    unfold ofFields at h
    split at h
    case h_1 | h_2 => cases h
    case h_3 =>
      obtain rfl := Except.ok.inj h
      rfl
  · rintro rfl
    have hcheck : check list.fields = .ok () :=
      check_eq_ok_iff.mpr ⟨list.distinct, list.variable_last⟩
    unfold ofFields
    split
    case h_1 hfault => exact nomatch hcheck.symm.trans hfault
    case h_2 hnone => exact nomatch list.sized.symm.trans hnone
    case h_3 => exact congrArg Except.ok (ext_fields rfl)

/-- The sizes of fields are summed up scalar by scalar. -/
theorem sizeOf_eq_sum (fields : List Field) :
    sizeOf fields = (fields.map fun field => field.kind.elementSize * field.count).sum := by
  induction fields with
  | nil => rfl
  | cons field fields ih => rw [sizeOf, ih, field.size_eq, List.map_cons, List.sum_cons]

/-- A list that is accepted consists of the fields of its type strings. The words for the number of
scalars, for the size of each field and for the size of the whole body are what they stand for. So
wherever a field gives a value, its bytes were never cut into empty pieces. -/
theorem sizes_are_exact {entries : List (String × String)} {order : ByteOrder} {list : FieldList}
    (h : ofTypes entries order = .ok list) :
    entries.mapM (fun entry => Field.ofType entry.1 entry.2 order) = .ok list.fields ∧
    (∀ field ∈ list.fields, ∃ count size : UInt64,
      field.elementCount = some count ∧ count.toNat = (field.shape.map UInt64.toNat).prod ∧
      field.byteSize = some size ∧
      size.toNat = field.kind.elementSize * (field.shape.map UInt64.toNat).prod ∧
      (field.isVariable = false → ∀ data value, field.decode data = .ok value →
        data.CutsBy field.shape)) ∧
    list.fixedSize.toNat = (list.fields.map fun field =>
      field.kind.elementSize * (field.shape.map UInt64.toNat).prod).sum := by
  obtain ⟨fields, hfields, hlist⟩ := bind_eq_ok.mp h
  obtain rfl := ofFields_eq_ok_iff.mp hlist
  refine ⟨hfields, fun field hfield => ?_, list.fixedSize_toNat.trans (sizeOf_eq_sum _)⟩
  have hfits : field.size < 2 ^ 64 := list.size_lt_of_mem field hfield
  obtain ⟨count, hcount⟩ := Word.exists_of_lt (Field.count_lt hfits)
  obtain ⟨size, hsize, hsame⟩ := Field.exists_byteSize hfits
  refine ⟨count, size, Field.elementCount_eq_some_iff.mpr hcount, hcount, hsize,
    hsame.trans field.size_eq, fun hfixed data value hvalue => ?_⟩
  obtain ⟨-, hlength, -⟩ := Field.fixed_of_decode_eq_ok hfixed hvalue
  exact Bytes.cuts_of_length hfixed field.shape_nonzero hlength

/-- A matrix and a text: the sizes add up to those of the matrix, and six words of two bytes are cut
into two rows. -/
theorem sizes_are_exact_matrix :
    ∃ list field, ofTypes [("grid", "u16[2][3]"), ("note", "str")] .big = .ok list ∧
      list.fields.head? = some field ∧ list.fixedSize.toNat = 12 ∧
      (∃ count size : UInt64, field.elementCount = some count ∧ count.toNat = 6 ∧
        field.byteSize = some size ∧ size.toNat = 12) ∧
      Bytes.CutsBy field.shape [0, 1, 0, 2, 0, 3, 0, 4, 0, 5, 0, 6] := by
  let field : Field := ⟨"grid", .unsigned .two, [2, 3], .big, by decide, by decide, nofun⟩
  let list : FieldList :=
    { fields := [field, .scalar "note" .text]
      fixedSize := 12
      distinct := by decide
      variable_last := by decide
      sized := by decide }
  have haccepted : ofTypes [("grid", "u16[2][3]"), ("note", "str")] .big = .ok list := by
    decide +kernel
  obtain ⟨-, hfields, hlist⟩ := sizes_are_exact haccepted
  obtain ⟨count, size, hcount, hcount', hsize, hsize', hcuts⟩ := hfields field List.mem_cons_self
  have hdecode : ∃ value, field.decode [0, 1, 0, 2, 0, 3, 0, 4, 0, 5, 0, 6] = .ok value :=
    ⟨_, Field.decode_of_fixed rfl (by decide) (by decide)⟩
  obtain ⟨value, hvalue⟩ := hdecode
  exact ⟨list, field, haccepted, rfl, hlist, ⟨count, size, hcount, hcount', hsize, hsize'⟩,
    hcuts rfl _ value hvalue⟩

/-- A matrix of 2³² rows and as many columns has too many scalars for a word: the program stops. -/
example : ofTypes [("a", "u8[4294967296][4294967296]")] .big = .error .overflow := by
  decide +kernel

end FieldList

end GroundLink
