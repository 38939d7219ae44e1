import GroundLink.Proofs.Field.RoundTrip

/-!
# Bodies back again

Whatever a decoder gives, the encoder takes it, and the body comes back as it was but for two
things: a flag is written as zero or one, and a text without zero bytes at its end. Read
`Kind.normal` and `FieldList.cut` first. Arrays are taken apart and put together piece by piece
(`encodeShape_decodeShape`), bodies field by field (`encodeFields_of_decodeFields`). `encode_decode`
also says that the body that comes back is decoded as the first one was.
-/

namespace GroundLink

namespace Kind

/-- The bytes of a field as an encoder writes them. -/
def normal (kind : Kind) (data : Bytes) : Bytes :=
  match kind with
  | .bool => data.map fun byte => if byte = 0 then 0 else 1
  | .text => Bytes.trimZeros data
  | _ => data

/-- Flags that are zero or one, and texts that do not end in zero bytes. -/
def IsNormal (kind : Kind) (data : Bytes) : Prop :=
  match kind with
  | .bool => ∀ byte ∈ data, byte = 0 ∨ byte = 1
  | .text => data.getLast? ≠ some 0
  | _ => True

variable {kind : Kind} {data : Bytes}

/-- Bytes that are normal already stay what they are. -/
theorem normal_of_isNormal (h : kind.IsNormal data) : kind.normal data = data := by
  cases kind with
  | bool =>
      have hbytes : data.map (fun byte => if byte = 0 then 0 else 1) = data.map id := by
        refine List.map_congr_left fun byte hbyte => ?_
        rcases h byte hbyte with rfl | rfl <;> rfl
      exact hbytes.trans (List.map_id data)
  | text =>
      cases hlast : data.getLast? with
      | none =>
          rw [List.getLast?_eq_none_iff.mp hlast]
          rfl
      | some byte =>
          obtain ⟨before, rfl⟩ := List.getLast?_eq_some_iff.mp hlast
          have hbyte : byte ≠ 0 := fun hzero => h (hzero ▸ hlast)
          exact Bytes.trimZeros_concat hbyte
  | unsigned | signed | float32 | float64 | timestamp | bytes => rfl

/-- The pieces of an array are written one by one. -/
theorem normal_flatten (hfixed : kind.isVariable = false) (parts : List Bytes) :
    kind.normal parts.flatten = (parts.map kind.normal).flatten := by
  cases kind with
  | bool => exact List.map_flatten
  | text => cases hfixed
  | unsigned | signed | float32 | float64 | timestamp | bytes =>
      exact congrArg List.flatten (List.map_id' parts).symm

end Kind

namespace Field

variable {field : Field} {data : Bytes}

/-! ## Words -/

/-- The bytes of the word that bytes write are the bytes. -/
theorem wordBytes_word (field : Field) (data : Bytes) :
    field.wordBytes data.length (field.word data) = data := by
  unfold wordBytes word
  cases field.order with
  | big => exact Bytes.ofNat_toNat data
  | little =>
      dsimp only
      rw [← List.length_reverse, Bytes.ofNat_toNat, List.reverse_reverse]

/-- Bytes write no larger word than they have room for. -/
theorem word_lt (field : Field) (data : Bytes) : field.word data < 2 ^ (8 * data.length) := by
  rw [Nat.pow_mul]
  unfold word
  cases field.order with
  | big => exact Bytes.toNat_lt data
  | little =>
      dsimp only
      rw [← List.length_reverse]
      exact Bytes.toNat_lt data.reverse

/-- A word that is read in two's complement is in the range of its width, and the same word. -/
theorem twosComplement_spec {bits n : Nat} (hbits : 0 < bits) (hn : n < 2 ^ bits) :
    -2 ^ (bits - 1) ≤ twosComplement bits n ∧ twosComplement bits n ≤ 2 ^ (bits - 1) - 1 ∧
      (twosComplement bits n % 2 ^ bits).toNat = n := by
  obtain ⟨rest, rfl⟩ := Nat.exists_eq_succ_of_ne_zero (Nat.ne_of_gt hbits)
  rw [Nat.pow_succ] at hn
  unfold twosComplement
  rw [Nat.succ_sub_one, Int.pow_succ]
  have hcast : ((2 ^ rest : Nat) : Int) = 2 ^ rest := by push_cast; rfl
  generalize (2 : Nat) ^ rest = half at hcast hn ⊢
  rw [← hcast]
  split
  case isTrue hlow =>
    refine ⟨by omega, by omega, ?_⟩
    rw [Int.emod_eq_of_lt (by omega) (by omega)]
    rfl
  case isFalse hhigh =>
    refine ⟨by omega, by omega, ?_⟩
    rw [Int.sub_emod_right, Int.emod_eq_of_lt (by omega) (by omega)]
    rfl

/-- An integer between its bounds is written as the bytes whose word it is. -/
theorem encodeInt_of_word {low high n : Int} (hlow : low ≤ n) (hhigh : n ≤ high)
    (hword : (n % 2 ^ (8 * data.length)).toNat = field.word data) :
    field.encodeInt data.length low high n = .ok data := by
  rw [encodeInt, if_pos ⟨hlow, hhigh⟩, hword, wordBytes_word]

/-- The word of at most eight bytes is written as these bytes. -/
theorem encodeInt_unsigned (hlength : 8 * data.length ≤ 64) :
    field.encodeInt data.length 0 (2 ^ (8 * data.length) - 1)
      (UInt64.ofNat (field.word data)).toNat = .ok data := by
  have hword := field.word_lt data
  have hle : (2 : Nat) ^ (8 * data.length) ≤ 2 ^ 64 := Nat.pow_le_pow_right (by decide) hlength
  have hcast : ((2 ^ (8 * data.length) : Nat) : Int) = 2 ^ (8 * data.length) := by push_cast; rfl
  rw [UInt64.toNat_ofNat', Nat.mod_eq_of_lt (by omega)]
  refine encodeInt_of_word (by omega) (by omega) ?_
  rw [Int.emod_eq_of_lt (by omega) (by omega)]
  rfl

/-- So is the number that they write in two's complement. -/
theorem encodeInt_signed (hpositive : 0 < 8 * data.length) (hlength : 8 * data.length ≤ 64) :
    field.encodeInt data.length (-2 ^ (8 * data.length - 1)) (2 ^ (8 * data.length - 1) - 1)
      (Int64.ofInt (twosComplement (8 * data.length) (field.word data))).toInt = .ok data := by
  obtain ⟨hlow, hhigh, hsame⟩ := twosComplement_spec hpositive (field.word_lt data)
  have hle : (2 : Nat) ^ (8 * data.length - 1) ≤ 2 ^ 63 :=
    Nat.pow_le_pow_right (by decide) (Nat.sub_le_sub_right hlength 1)
  have hcast : ((2 ^ (8 * data.length - 1) : Nat) : Int) = 2 ^ (8 * data.length - 1) := by
    push_cast; rfl
  rw [Int64.toInt_ofInt_of_le (by omega) (by omega)]
  exact encodeInt_of_word hlow hhigh hsame

/-! ## Scalars -/

/-- A scalar that was read from its bytes is written as they are, a flag as zero or one. -/
theorem encodeScalar_decodeScalar (hfixed : field.isVariable = false)
    (hfloat : field.kind.isFloat = false) (hlength : data.length = field.kind.elementSize) :
    field.encodeScalar (field.decodeScalar data) = .ok (field.kind.normal data) := by
  have hword := field.word_lt data
  unfold isVariable at hfixed
  unfold encodeScalar decodeScalar
  cases hkind : field.kind with
  | unsigned w =>
      rw [hkind] at hlength
      change data.length = w.bytes at hlength
      have hbits : w.bits = 8 * data.length := congrArg (8 * ·) hlength.symm
      dsimp only [Value.int?]
      rw [hbits, ← hlength]
      exact encodeInt_unsigned (hbits ▸ w.bits_le.2)
  | signed w =>
      rw [hkind] at hlength
      change data.length = w.bytes at hlength
      have hbits : w.bits = 8 * data.length := congrArg (8 * ·) hlength.symm
      dsimp only [Value.int?]
      rw [hbits, ← hlength]
      exact encodeInt_signed (hbits ▸ w.bits_le.1) (hbits ▸ w.bits_le.2)
  | float32 | float64 => rw [hkind] at hfloat; cases hfloat
  | bool =>
      rw [hkind] at hlength
      obtain ⟨byte, rfl⟩ := List.length_eq_one_iff.mp hlength
      have hbyte : field.word [byte] = byte.toNat := by
        unfold word
        cases field.order <;> exact Nat.zero_add byte.toNat
      dsimp only [Kind.normal]
      rw [hbyte, List.map_singleton]
      by_cases hzero : byte = 0
      · rw [hzero]
        rfl
      · have hne : byte.toNat ≠ 0 := fun h => hzero (UInt8.toNat_inj.mp h)
        rw [if_neg hzero, if_pos (bne_iff_ne.mpr hne)]
  | timestamp =>
      rw [hkind] at hlength
      change data.length = 4 at hlength
      rw [hlength] at hword
      have hn : (UInt32.ofNat (field.word data)).toNat = field.word data := by
        rw [UInt32.toNat_ofNat', Nat.mod_eq_of_lt hword]
      dsimp only [Kind.normal]
      rw [hn, ← hlength, wordBytes_word]
  | bytes | text => rw [hkind] at hfixed; cases hfixed

/-- A scalar that was read from its bytes is its own canonical form. -/
theorem canonical_decodeScalar (hfixed : field.isVariable = false)
    (hfloat : field.kind.isFloat = false) :
    field.kind.Canonical (field.decodeScalar data) (field.decodeScalar data) := by
  unfold isVariable at hfixed
  unfold decodeScalar
  cases hkind : field.kind with
  | unsigned w => exact .unsigned rfl
  | signed w => exact .signed rfl
  | float32 | float64 => rw [hkind] at hfloat; cases hfloat
  | bool => exact .bool _
  | timestamp => exact .timestamp _
  | bytes | text => rw [hkind] at hfixed; cases hfixed

/-! ## Arrays -/

/-- An array that was read from its bytes is written as they are, its flags as zeros and ones, and
is its own canonical form. -/
theorem encodeShape_decodeShape {shape : List UInt64} (hfixed : field.isVariable = false)
    (hfloat : field.kind.isFloat = false) (hshape : 0 ∉ shape)
    (hlength : data.length = field.kind.size shape) :
    field.encodeShape shape (field.decodeShape shape data) = .ok (field.kind.normal data) ∧
      field.kind.CanonicalAt shape (field.decodeShape shape data)
        (field.decodeShape shape data) := by
  induction shape generalizing data with
  | nil => exact ⟨encodeScalar_decodeScalar hfixed hfloat hlength,
      canonical_decodeScalar hfixed hfloat⟩
  | cons dimension rest ih =>
      obtain ⟨hdimension, hrest⟩ := List.ne_and_not_mem_of_not_mem_cons hshape
      have hpositive : 0 < dimension.toNat :=
        Nat.pos_of_ne_zero fun hzero => hdimension (UInt64.toNat_inj.mp hzero).symm
      have hsize : data.length / dimension.toNat = field.kind.size rest := by
        rw [hlength]
        exact Nat.mul_div_cancel_left _ hpositive
      -- the decoder cuts into as many pieces as the encoder asks for
      obtain ⟨hcount, hparts, hjoined⟩ :=
        Bytes.pieces_of_length (Kind.size_pos hfixed hrest) hlength
      have hencoded : (Bytes.pieces (field.kind.size rest) data).mapM
          (field.encodeShape rest ∘ field.decodeShape rest) =
            .ok ((Bytes.pieces (field.kind.size rest) data).map field.kind.normal) :=
        mapM_eq_ok fun part hpart => (ih hrest (hparts part hpart)).1
      rw [decodeShape, hsize]
      refine ⟨?_, (List.length_map _).trans hcount, List.forall₂_same.mpr ?_⟩
      · rw [encodeShape, List.length_map, if_pos hcount, List.mapM_map, hencoded]
        show Except.ok _ = _
        rw [← Kind.normal_flatten hfixed, hjoined]
      · exact List.forall_mem_map.mpr fun part hpart => (ih hrest (hparts part hpart)).2

/-! ## Fields -/

/-- A field of fixed size that is read has its size, and is written as it was. -/
theorem fixed_of_decode {value : Value} (hfixed : field.isVariable = false)
    (hfloat : field.kind.isFloat = false) (h : field.decode data = .ok value) :
    field.encodeInto value = .ok (field.kind.normal data) ∧
      field.kind.CanonicalAt field.shape value value := by
  obtain ⟨-, hlength, rfl⟩ := fixed_of_decode_eq_ok hfixed h
  exact encodeShape_decodeShape hfixed hfloat field.shape_nonzero hlength

/-- A field of variable length that is read is written as it was, a text without the zero bytes at
its end. -/
theorem variable_of_decode {value : Value} (hvariable : field.isVariable = true)
    (h : field.decode data = .ok value) :
    field.encodeInto value = .ok (field.kind.normal data) ∧
      field.kind.CanonicalAt field.shape value value := by
  rw [encodeInto, field.variable_scalar hvariable]
  show field.encodeScalar value = _ ∧ field.kind.Canonical value value
  unfold isVariable at hvariable
  unfold encodeScalar
  unfold decode at h
  cases hkind : field.kind with
  | bytes =>
      simp only [hkind] at h ⊢
      obtain rfl := Except.ok.inj h
      exact ⟨rfl, .bytes data⟩
  | text =>
      simp only [hkind] at h ⊢
      split at h
      case h_1 s hs =>
        obtain rfl := Except.ok.inj h
        have hbytes : utf8 s = Bytes.trimZeros data := utf8_of_ofUtf8? hs
        -- the text is the one that is left of it without the NUL characters at its end
        obtain ⟨t, count, hnuls, ht⟩ := exists_without_nuls s
        have hsame : utf8 s = utf8 t := by
          rw [← trimZeros_utf8 hnuls ht, hbytes, Bytes.trimZeros_trimZeros]
        obtain rfl : s = t := by
          have htext := ofUtf8?_utf8 s
          rw [hsame, ofUtf8?_utf8] at htext
          exact (Option.some.inj htext).symm
        exact ⟨congrArg Except.ok hbytes, .text hnuls ht⟩
      case h_2 => cases h
  | unsigned | signed | float32 | float64 | bool | timestamp =>
      rw [hkind] at hvariable
      cases hvariable

/-- A field that is read is written as it was, but for what reading does not tell. -/
theorem encodeInto_of_decode {value : Value} (hfloat : field.kind.isFloat = false)
    (h : field.decode data = .ok value) :
    field.encodeInto value = .ok (field.kind.normal data) ∧
      field.kind.CanonicalAt field.shape value value := by
  cases hkind : field.isVariable with
  | false => exact fixed_of_decode hkind hfloat h
  | true => exact variable_of_decode hkind h

end Field

/-! ## Bodies -/

namespace FieldList

/-- The bytes of each field of a body, with its kind: as many as the field takes, or all that are
left. -/
def cut : List Field → Bytes → List (Kind × Bytes)
  | [], _ => []
  | field :: fields, data =>
    let size := if field.isVariable then data.length else field.size
    (field.kind, data.take size) :: cut fields (data.drop size)

/-- The body of some parts. -/
def join (parts : List (Kind × Bytes)) : Bytes :=
  parts.flatMap Prod.snd

/-- The body of some parts as an encoder writes it. -/
def joinNormal (parts : List (Kind × Bytes)) : Bytes :=
  parts.flatMap fun part => part.1.normal part.2

/-- Parts that are normal already stay what they are. -/
theorem joinNormal_of_isNormal {parts : List (Kind × Bytes)}
    (h : ∀ part ∈ parts, part.1.IsNormal part.2) : joinNormal parts = join parts :=
  List.flatMap_congr fun part hpart => Kind.normal_of_isNormal (h part hpart)

/-- The first field of a body is read from the first part, and the others from the rest. -/
theorem decodeFields_cons {field : Field} {fields : List Field} {body : Bytes}
    {entries : List (String × Value)} (hsize : field.size < 2 ^ 64)
    (h : decodeFields (field :: fields) body = .ok entries) :
    let size := if field.isVariable then body.length else field.size
    ∃ value others, entries = (field.name, value) :: others ∧
      field.decode (body.take size) = .ok value ∧
      decodeFields fields (body.drop size) = .ok others := by
  rw [decodeFields, Field.span_of_size hsize] at h
  obtain ⟨_, ⟨⟩, h⟩ := bind_eq_ok.mp h
  obtain ⟨value, hvalue, h⟩ := bind_eq_ok.mp h
  obtain ⟨others, hothers, h⟩ := bind_eq_ok.mp h
  exact ⟨value, others, (Except.ok.inj h).symm, hvalue, hothers⟩

/-- What is known of fields that are read from a body of the right length. -/
theorem encodeFields_of_decodeFields {fields : List Field} {body : Bytes}
    {entries : List (String × Value)} (hsize : ∀ field ∈ fields, field.size < 2 ^ 64)
    (hfloat : ∀ field ∈ fields, field.kind.isFloat = false)
    (hlast : ∀ field ∈ fields.dropLast, field.isVariable = false)
    (hlength : (∀ field ∈ fields, field.isVariable = false) → body.length = sizeOf fields)
    (h : decodeFields fields body = .ok entries) :
    entries.length = fields.length ∧
      encodeFields fields (entries.map Prod.snd) = .ok (joinNormal (cut fields body)) ∧
      Recorded fields (entries.map Prod.snd) entries ∧ join (cut fields body) = body := by
  induction fields generalizing body entries with
  | nil =>
      obtain rfl := Except.ok.inj h
      exact ⟨rfl, rfl, .nil, (List.eq_nil_of_length_eq_zero (hlength (List.forall_mem_nil _))).symm⟩
  | cons field fields ih =>
      obtain ⟨hsizeHead, hsizeRest⟩ := List.forall_mem_cons.mp hsize
      obtain ⟨hfloatHead, hfloatRest⟩ := List.forall_mem_cons.mp hfloat
      obtain ⟨hvariable, hlastRest⟩ := rest_of_fixed hlast
      obtain ⟨value, others, rfl, hvalue, hothers⟩ := decodeFields_cons hsizeHead h
      have hlengthRest : (∀ other ∈ fields, other.isVariable = false) →
          (body.drop (if field.isVariable then body.length else field.size)).length =
            sizeOf fields := by
        intro hfixed
        rw [List.length_drop]
        cases hkind : field.isVariable with
        | false =>
            rw [hlength (List.forall_mem_cons.mpr ⟨hkind, hfixed⟩), sizeOf]
            exact Nat.add_sub_cancel_left ..
        | true =>
            -- a field of variable length is the last one, and takes all that is left
            obtain rfl := hvariable hkind
            exact Nat.sub_self _
      obtain ⟨hcount, hencode, hrecorded, hjoin⟩ :=
        ih hsizeRest hfloatRest hlastRest hlengthRest hothers
      obtain ⟨hfirst, hcanonical⟩ := Field.encodeInto_of_decode hfloatHead hvalue
      refine ⟨congrArg (· + 1) hcount, ?_, .cons hcanonical hrecorded, ?_⟩
      · rw [List.map_cons, encodeFields, hfirst, hencode]
        rfl
      · rw [cut]
        show body.take _ ++ join (cut fields (body.drop _)) = body
        rw [hjoin, List.take_append_drop]

/-- What a field list says of the length of a body that it decodes. -/
theorem length_of_decode {list : FieldList} {body : Bytes} {record : Record}
    (h : list.decode body = .ok record) :
    sizeOf list.fields ≤ body.length ∧
      ((∀ field ∈ list.fields, field.isVariable = false) → body.length = sizeOf list.fields) := by
  unfold decode at h
  rw [fixedSize_toNat] at h
  split at h
  case isTrue => cases h
  case isFalse hlong =>
    split at h
    case isTrue => cases h
    case isFalse hexact =>
      refine ⟨Nat.not_lt.mp hlong, fun hfixed => ?_⟩
      have hvariable : list.hasVariable = false := by
        unfold hasVariable
        cases hlast : list.fields.getLast? with
        | none => rfl
        | some last => exact hfixed last (List.mem_of_getLast? hlast)
      simpa [hvariable] using hexact

/-- Every body that is decoded can be encoded again, if the buffer for its fields can be reserved,
as it can if the body is in memory: no string of bytes is longer. The body comes back part by part
as an encoder writes it, so it is the same body if its flags are zero or one and its text does not
end in a zero byte; and it is decoded to the same record. -/
theorem encode_decode {list : FieldList} {body : Bytes} {record : Record}
    (hmemory : sizeOf list.fields < 2 ^ 63 ∨ body.length < 2 ^ 63)
    (hfloat : ∀ field ∈ list.fields, field.kind.isFloat = false)
    (h : list.decode body = .ok record) :
    join (cut list.fields body) = body ∧
      ∃ body', list.encode record.values = .ok body' ∧
        body' = joinNormal (cut list.fields body) ∧
        list.decode body' = .ok record ∧
        ((∀ part ∈ cut list.fields body, part.1.IsNormal part.2) → body' = body) := by
  obtain ⟨hle, hlength⟩ := length_of_decode h
  have hreserved : sizeOf list.fields < 2 ^ 63 :=
    hmemory.elim id fun hshort => Nat.lt_of_le_of_lt hle hshort
  rw [decode_of_length hle hlength] at h
  cases hentries : decodeFields list.fields body with
  | error error =>
      rw [hentries] at h
      cases h
  | ok entries =>
      rw [hentries] at h
      obtain rfl := Except.ok.inj h
      obtain ⟨hcount, hencode, hrecorded, hjoin⟩ :=
        encodeFields_of_decodeFields list.size_lt_of_mem hfloat list.variable_last hlength hentries
      have hvalues : (entries.map Prod.snd).length = list.fields.length := by
        rw [List.length_map, hcount]
      obtain ⟨hle', hlength', entries', hentries', hrecorded'⟩ :=
        recorded_of_encodeFields hvalues list.size_lt_of_mem hfloat list.variable_last hencode
      refine ⟨hjoin, _, encode_eq_ok_iff.mpr ⟨hvalues, hreserved, hencode⟩, rfl, ?_,
        fun hnormal => ?_⟩
      · rw [decode_of_length hle' hlength', hentries', hrecorded'.unique hrecorded]
        rfl
      · rw [joinNormal_of_isNormal hnormal, hjoin]

/-- Flags that are neither zero nor one, integers in little order, and a text with zero bytes at its
end. -/
theorem encode_decode_flags :
    ∃ list : FieldList,
      let body : Bytes := [0, 7, 254, 255, 104, 105, 0, 0]
      let record : Record :=
        ⟨[("flags", .array [.bool false, .bool true]), ("rate", .signed (-2)),
          ("note", .text "hi")]⟩
      (list.fields.map Field.text = ["flags: bool[2]", "rate: i16", "note: str"]) ∧
      sizeOf list.fields = 4 ∧
      (∀ field ∈ list.fields, field.kind.isFloat = false) ∧
      list.decode body = .ok record ∧
      list.encode record.values = .ok [0, 1, 254, 255, 104, 105] ∧
      list.decode [0, 1, 254, 255, 104, 105] = .ok record := by
  let list : FieldList :=
    { fields := [⟨"flags", .bool, [2], .big, by decide, by decide, nofun⟩,
        (Field.scalar "rate" (.signed .two)).withOrder .little, .scalar "note" .text]
      fixedSize := 4
      distinct := by decide
      variable_last := by decide
      sized := by decide }
  have hsize : sizeOf list.fields = 4 := by decide
  have hfloat : ∀ field ∈ list.fields, field.kind.isFloat = false := by decide
  let record : Record :=
    ⟨[("flags", .array [.bool false, .bool true]), ("rate", .signed (-2)), ("note", .text "hi")]⟩
  have hdecode : list.decode [0, 7, 254, 255, 104, 105, 0, 0] = .ok record := by
    with_unfolding_all rfl
  obtain ⟨-, body', hencode, hbody, hagain, -⟩ := encode_decode (.inr (by decide)) hfloat hdecode
  have hnormal : joinNormal (cut list.fields [0, 7, 254, 255, 104, 105, 0, 0]) =
      [0, 1, 254, 255, 104, 105] := by
    decide +kernel
  rw [hnormal] at hbody
  subst hbody
  exact ⟨list, by decide, hsize, hfloat, hdecode, hencode, hagain⟩

end FieldList

end GroundLink
