import GroundLink.Proofs.Field.RoundTrip

/-!
# Values that conform

A field takes a value exactly if the value is nested as the dimensions say and each scalar in it
fits the kind (`Kind.Conforms`). Any other value is refused for its first node that is at fault,
rows first (`Field.FirstOffence`). Read these two and `Field.Offends` first: none of them mentions
bytes. `encode_accepts_conforming` is built from the encoder's verdict on scalars (`scalar_verdict`)
and, by induction on the dimensions, on arrays (`shape_verdict`). It holds as far as the buffer for
a value can be reserved; `wide_field_stops` shows a field for which it cannot.
-/

namespace GroundLink

namespace Kind

/-- The sorts of values that a kind holds. Number kinds hold any number; a timestamp may also be a
count of seconds. -/
def Takes (kind : Kind) (value : Value) : Prop :=
  match kind with
  | .unsigned _ | .signed _ => ∃ n, value.int? = some n
  | .float32 | .float64 => (∃ n, value.int? = some n) ∨ ∃ d, value = .float d
  | .bool => ∃ b, value = .bool b
  | .timestamp => (∃ t, value = .timestamp t) ∨ ∃ n, value.int? = some n
  | .bytes => ∃ data, value = .bytes data
  | .text => ∃ s, value = .text s

/-- The integers that a kind has room for. -/
def InRange (kind : Kind) (n : Int) : Prop :=
  match kind with
  | .unsigned w => 0 ≤ n ∧ n ≤ 2 ^ w.bits - 1
  | .signed w => -(2 ^ (w.bits - 1)) ≤ n ∧ n ≤ 2 ^ (w.bits - 1) - 1
  | .timestamp => 0 ≤ n ∧ n ≤ 2 ^ 32 - 1
  | .float32 | .float64 | .bool | .bytes | .text => True

/-- A scalar of the right sort and, if it is an integer, of the right size. -/
def Fits (kind : Kind) (value : Value) : Prop :=
  kind.Takes value ∧ ∀ n, value.int? = some n → kind.InRange n

/-- A value that is nested as dimensions say and whose scalars fit. -/
def Conforms (kind : Kind) : List UInt64 → Value → Prop
  | [], value => kind.Fits value
  | dimension :: rest, value =>
    ∃ items, value = .array items ∧ items.length = dimension.toNat ∧
      ∀ item ∈ items, kind.Conforms rest item

/-- A kind that has no room for some integers holds integers. -/
theorem takes_of_not_inRange {kind : Kind} {value : Value} {n : Int} (hn : value.int? = some n)
    (h : ¬kind.InRange n) : kind.Takes value := by
  cases kind with
  | unsigned w | signed w => exact ⟨n, hn⟩
  | timestamp => exact .inr ⟨n, hn⟩
  | float32 | float64 | bool | bytes | text => exact absurd trivial h

end Kind

/-- The nodes of a value with the dimensions that are left for each: a value comes before its items,
and the nodes of an item before those of the next one. -/
def Value.nodes : List UInt64 → Value → List (List UInt64 × Value)
  | [], value => [([], value)]
  | dimension :: rest, value =>
    (dimension :: rest, value) :: (value.array?.getD []).flatMap (nodes rest)

namespace Field

/-- What is wrong with a node of a value, apart from the nodes in it. -/
inductive Offends (field : Field) : List UInt64 × Value → EncodeError → Prop
  | notAnArray {dimension : UInt64} {rest : List UInt64} {value : Value}
      (h : value.array? = none) :
      Offends field (dimension :: rest, value) (.notAnArray field.name field.shape value.typeName)
  | wrongLength {dimension : UInt64} {rest : List UInt64} {items : List Value}
      (h : items.length ≠ dimension.toNat) :
      Offends field (dimension :: rest, .array items)
        (.wrongLength field.name field.shape dimension items.length)
  | typeMismatch {value : Value} (h : ¬field.kind.Takes value) :
      Offends field ([], value) (.typeMismatch field.name field.typeText value.typeName)
  | outOfRange {value : Value} {n : Int} (hn : value.int? = some n) (h : ¬field.kind.InRange n) :
      Offends field ([], value) (.outOfRange field.name (toString n) field.kind)

/-- What is wrong with the first node at fault. -/
inductive FirstOffence (field : Field) : List (List UInt64 × Value) → EncodeError → Prop
  | here {node : List UInt64 × Value} {e : EncodeError} (h : field.Offends node e)
      (nodes : List (List UInt64 × Value)) : FirstOffence field (node :: nodes) e
  | later {node : List UInt64 × Value} {nodes : List (List UInt64 × Value)} {e : EncodeError}
      (hnode : ∀ other, ¬field.Offends node other) (h : FirstOffence field nodes e) :
      FirstOffence field (node :: nodes) e

variable {field : Field} {value : Value} {shape : List UInt64} {e : EncodeError}

/-! ## Nodes at fault -/

/-- A node has one fault only. -/
theorem Offends.unique {node : List UInt64 × Value} {other : EncodeError}
    (h : field.Offends node e) (h' : field.Offends node other) : e = other := by
  cases h with
  | notAnArray h =>
      cases h' with
      | notAnArray => rfl
      | wrongLength => cases h
  | wrongLength h =>
      cases h' with
      | notAnArray h' => cases h'
      | wrongLength => rfl
  | typeMismatch h =>
      cases h' with
      | typeMismatch => rfl
      | outOfRange hn h' => exact absurd (Kind.takes_of_not_inRange hn h') h
  | outOfRange hn h =>
      cases h' with
      | typeMismatch h' => exact absurd (Kind.takes_of_not_inRange hn h) h'
      | outOfRange hn' => rw [Option.some.inj (hn.symm.trans hn')]

/-- Nodes have one first offence at most. -/
theorem FirstOffence.unique {nodes : List (List UInt64 × Value)} {other : EncodeError}
    (h : field.FirstOffence nodes e) (h' : field.FirstOffence nodes other) : e = other := by
  induction h with
  | here h =>
      cases h' with
      | here h' => exact h.unique h'
      | later hnode => exact absurd h (hnode _)
  | later hnode _ ih =>
      cases h' with
      | here h' => exact absurd h' (hnode _)
      | later _ h' => exact ih h'

/-- The first offence is that of one of the nodes. -/
theorem FirstOffence.exists_mem {nodes : List (List UInt64 × Value)}
    (h : field.FirstOffence nodes e) : ∃ node ∈ nodes, field.Offends node e := by
  induction h with
  | here h nodes => exact ⟨_, List.mem_cons_self, h⟩
  | later _ _ ih =>
      obtain ⟨node, hmem, hnode⟩ := ih
      exact ⟨node, List.mem_cons_of_mem _ hmem, hnode⟩

/-- Nodes behind the first one at fault do not matter. -/
theorem FirstOffence.append {nodes : List (List UInt64 × Value)}
    (h : field.FirstOffence nodes e) (after : List (List UInt64 × Value)) :
    field.FirstOffence (nodes ++ after) e := by
  induction h with
  | here h nodes => exact .here h (nodes ++ after)
  | later hnode _ ih => exact .later hnode ih

/-- Nor do nodes in front of it. -/
theorem FirstOffence.behind {before nodes : List (List UInt64 × Value)}
    (hbefore : ∀ node ∈ before, ∀ other, ¬field.Offends node other)
    (h : field.FirstOffence nodes e) : field.FirstOffence (before ++ nodes) e := by
  induction before with
  | nil => exact h
  | cons node before ih =>
      obtain ⟨hnode, hrest⟩ := List.forall_mem_cons.mp hbefore
      exact .later hnode (ih hrest)

/-- No node of a value that conforms is at fault. -/
theorem not_offends_of_conforms (h : field.kind.Conforms shape value) :
    ∀ node ∈ value.nodes shape, ∀ other, ¬field.Offends node other := by
  induction shape generalizing value with
  | nil =>
      refine List.forall_mem_singleton.mpr fun other hoffends => ?_
      cases hoffends with
      | typeMismatch htakes => exact htakes h.1
      | outOfRange hn hrange => exact hrange (h.2 _ hn)
  | cons dimension rest ih =>
      obtain ⟨items, rfl, hlength, hitems⟩ := h
      refine List.forall_mem_cons.mpr ⟨fun other hoffends => ?_, fun node hnode => ?_⟩
      · cases hoffends with
        | notAnArray harray => cases harray
        | wrongLength hwrong => exact hwrong hlength
      · obtain ⟨item, hitem, hnode⟩ := List.mem_flatMap.mp hnode
        exact ih (hitems item hitem) node hnode

/-! ## The encoder's verdict -/

/-- An answer of the encoder that is right about a value: bytes, of the size that the dimensions
say, for a value that conforms, and for any other the fault of its first node at fault. -/
inductive Verdict (field : Field) (shape : List UInt64) (value : Value) :
    Except EncodeError Bytes → Prop
  | accepted {data : Bytes} (h : field.kind.Conforms shape value)
      (hsize : field.isVariable = false → data.length = field.kind.size shape) :
      Verdict field shape value (.ok data)
  | refused {e : EncodeError} (h : field.FirstOffence (value.nodes shape) e) :
      Verdict field shape value (.error e)

/-- What is encoded conforms, and has its size. -/
theorem Verdict.of_ok {data : Bytes} (h : field.Verdict shape value (.ok data)) :
    field.kind.Conforms shape value ∧
      (field.isVariable = false → data.length = field.kind.size shape) := by
  cases h with
  | accepted h hsize => exact ⟨h, hsize⟩

/-- What is told is the first offence. -/
theorem Verdict.of_error (h : field.Verdict shape value (.error e)) :
    field.FirstOffence (value.nodes shape) e := by
  cases h with
  | refused h => exact h

/-- A scalar of another sort is refused. -/
theorem mismatch_verdict (h : ¬field.kind.Takes value) :
    field.Verdict [] value (.error (field.mismatch value)) :=
  .refused (.here (.typeMismatch h) [])

/-- An integer is judged by the bounds of the kind. -/
theorem int_verdict {width : Nat} {low high n : Int} (hn : value.int? = some n)
    (hrange : field.kind.InRange n ↔ low ≤ n ∧ n ≤ high) (htakes : field.kind.Takes value)
    (hwidth : field.kind.elementSize = width) :
    field.Verdict [] value (field.encodeInt width low high n) := by
  unfold encodeInt
  split
  case isTrue h =>
    refine .accepted ⟨htakes, fun m hm => ?_⟩ fun _ =>
      (field.length_wordBytes _ _).trans hwidth.symm
    obtain rfl := Option.some.inj (hn.symm.trans hm)
    exact hrange.mpr h
  case isFalse h => exact .refused (.here (.outOfRange hn (mt hrange.mp h)) [])

/-- A scalar is accepted if it fits, and otherwise it is at fault. -/
theorem scalar_verdict (field : Field) (value : Value) :
    field.Verdict [] value (field.encodeScalar value) := by
  obtain ⟨name, kind, shape, order, -, -, -⟩ := field
  cases kind with
  | unsigned w | signed w =>
      cases value with
      | unsigned n | signed n => exact int_verdict rfl Iff.rfl ⟨_, rfl⟩ rfl
      | float | bool | timestamp | bytes | text | array =>
          exact mismatch_verdict fun ⟨_, h⟩ => nomatch h
  | float32 | float64 =>
      cases value with
      | unsigned n | signed n =>
          exact .accepted ⟨.inl ⟨_, rfl⟩, fun _ _ => trivial⟩ fun _ => length_wordBytes ..
      | float d =>
          exact .accepted ⟨.inr ⟨d, rfl⟩, fun _ _ => trivial⟩ fun _ => length_wordBytes ..
      | bool | timestamp | bytes | text | array =>
          refine mismatch_verdict ?_
          rintro (⟨_, h⟩ | ⟨_, h⟩) <;> cases h
  | bool =>
      cases value with
      | bool b => exact .accepted ⟨⟨b, rfl⟩, nofun⟩ fun _ => rfl
      | unsigned | signed | float | timestamp | bytes | text | array =>
          exact mismatch_verdict fun ⟨_, h⟩ => nomatch h
  | timestamp =>
      cases value with
      | unsigned n | signed n => exact int_verdict rfl Iff.rfl (.inr ⟨_, rfl⟩) rfl
      | timestamp t => exact .accepted ⟨.inl ⟨t, rfl⟩, nofun⟩ fun _ => length_wordBytes ..
      | float | bool | bytes | text | array =>
          refine mismatch_verdict ?_
          rintro (⟨_, h⟩ | ⟨_, h⟩) <;> cases h
  | bytes =>
      cases value with
      | bytes data => exact .accepted ⟨⟨data, rfl⟩, nofun⟩ nofun
      | unsigned | signed | float | bool | timestamp | text | array =>
          exact mismatch_verdict fun ⟨_, h⟩ => nomatch h
  | text =>
      cases value with
      | text s => exact .accepted ⟨⟨s, rfl⟩, nofun⟩ nofun
      | unsigned | signed | float | bool | timestamp | bytes | array =>
          exact mismatch_verdict fun ⟨_, h⟩ => nomatch h

/-- An array of the right length is accepted if its items are, and otherwise it is refused for the
first item that is. -/
theorem items_verdict {dimension : UInt64} {rest : List UInt64} {items : List Value}
    (hverdict : ∀ item, field.Verdict rest item (field.encodeShape rest item))
    (hlength : items.length = dimension.toNat) :
    field.Verdict (dimension :: rest) (.array items)
      ((items.mapM (field.encodeShape rest)).map List.flatten) := by
  have hconforms {item : Value} {part : Bytes} (h : field.encodeShape rest item = .ok part) :=
    Verdict.of_ok (h ▸ hverdict item)
  cases hparts : items.mapM (field.encodeShape rest) with
  | ok parts =>
      have hitems := (forall₂_of_mapM hparts).imp fun item part hpart => hconforms hpart
      obtain ⟨hnested, -⟩ := (List.forall₂_and_left items parts).mp hitems
      refine .accepted ⟨items, rfl, hlength, hnested⟩ fun hfixed => ?_
      have hsizes : ∀ part ∈ parts, part.length = field.kind.size rest := fun part hpart =>
        have ⟨item, _, hitem⟩ := exists_of_forall₂ hitems.flip part hpart
        hitem.2 hfixed
      rw [Bytes.length_flatten hsizes, ← hitems.length_eq, hlength]
      rfl
  | error e =>
      obtain ⟨before, item, after, rfl, hbefore, hitem⟩ := first_of_mapM hparts
      have hfirst : field.FirstOffence (item.nodes rest) e :=
        Verdict.of_error (hitem ▸ hverdict item)
      have hhead : ∀ other,
          ¬field.Offends (dimension :: rest, .array (before ++ item :: after)) other := by
        rintro other (h | h)
        · cases h
        · exact h hlength
      refine .refused (.later hhead ?_)
      -- the nodes in front are those of items that were accepted
      show field.FirstOffence ((before ++ item :: after).flatMap (Value.nodes rest)) e
      rw [List.flatMap_append, List.flatMap_cons]
      refine (hfirst.append _).behind fun node hnode => ?_
      obtain ⟨earlier, hearlier, hnode⟩ := List.mem_flatMap.mp hnode
      obtain ⟨part, hpart⟩ := hbefore earlier hearlier
      exact not_offends_of_conforms (hconforms hpart).1 node hnode

/-- The encoder's verdict on a value that is to be nested as dimensions say. -/
theorem shape_verdict (field : Field) (shape : List UInt64) (value : Value) :
    field.Verdict shape value (field.encodeShape shape value) := by
  induction shape generalizing value with
  | nil => exact field.scalar_verdict value
  | cons dimension rest ih =>
      cases value with
      | array items =>
          rw [encodeShape]
          split
          case isTrue hlength => exact items_verdict ih hlength
          case isFalse hlength => exact .refused (.here (.wrongLength hlength) _)
      | unsigned | signed | float | bool | timestamp | bytes | text =>
          exact .refused (.here (.notAnArray rfl) _)

/-- A field takes the values that conform to it, and no others; if its size is fixed, their bytes
have it. A value that is not taken is refused for its first node at fault. All that only holds if
the buffer for a value can be reserved: a field of 2⁶³ bytes or more stops the program whatever the
value is. -/
theorem encode_accepts_conforming (field : Field) (value : Value) :
    (field.size < 2 ^ 63 →
      ((∃ data, field.encode value = .ok data) ↔ field.kind.Conforms field.shape value) ∧
      (∀ data, field.encode value = .ok data → field.isVariable = false →
        field.byteSize.map UInt64.toNat = some data.length) ∧
      ∀ e, field.encode value = .error e ↔ field.FirstOffence (value.nodes field.shape) e) ∧
    (2 ^ 63 ≤ field.size → field.encode value = .error .overflow) := by
  refine ⟨fun hsize => ?_, fun hsize => field.encode_of_size_le hsize value⟩
  rw [field.encode_of_size_lt hsize]
  have hverdict : field.Verdict field.shape value (field.encodeInto value) :=
    field.shape_verdict field.shape value
  cases hresult : field.encodeInto value with
  | ok data =>
      rw [hresult] at hverdict
      obtain ⟨hconforms, hlength⟩ := hverdict.of_ok
      refine ⟨⟨fun _ => hconforms, fun _ => ⟨data, rfl⟩⟩, ?_, fun e => ⟨nofun, fun hfirst => ?_⟩⟩
      · rintro _ ⟨⟩ hfixed
        obtain ⟨size, hbytes, hsame⟩ := exists_byteSize (Nat.lt_trans hsize (by decide))
        rw [hbytes, Option.map_some, hsame, hlength hfixed]
        rfl
      · obtain ⟨node, hmem, hoffends⟩ := hfirst.exists_mem
        exact absurd hoffends (not_offends_of_conforms hconforms node hmem e)
  | error other =>
      rw [hresult] at hverdict
      have hfirst := hverdict.of_error
      refine ⟨⟨nofun, fun hconforms => ?_⟩, nofun, fun e => ⟨?_, fun h => ?_⟩⟩
      · obtain ⟨node, hmem, hoffends⟩ := hfirst.exists_mem
        exact absurd hoffends (not_offends_of_conforms hconforms node hmem other)
      · rintro ⟨⟩
        exact hfirst
      · rw [hfirst.unique h]

/-- In the first matrix an integer in the first row is too large, and so it does not matter that the
second row holds a flag. The second matrix conforms. A row of 2⁶³ bytes is too much for a buffer. -/
theorem encode_accepts_conforming_matrix :
    ∃ field wide : Field,
      let mixed : Value :=
        .array [.array [.unsigned 1, .signed 300], .array [.bool true, .unsigned 4]]
      let matrix : Value :=
        .array [.array [.unsigned 1, .signed 2], .array [.signed 3, .unsigned 255]]
      field.text = "grid: u8[2][2]" ∧ field.size < 2 ^ 63 ∧
      ¬field.kind.Conforms field.shape mixed ∧
      field.FirstOffence (mixed.nodes field.shape) (.outOfRange "grid" "300" (.unsigned .one)) ∧
      field.kind.Conforms field.shape matrix ∧
      (∃ data, field.encode matrix = .ok data ∧
        field.byteSize.map UInt64.toNat = some data.length) ∧
      2 ^ 63 ≤ wide.size ∧ wide.encode mixed = .error .overflow := by
  let field : Field := ⟨"grid", .unsigned .one, [2, 2], .big, by decide, by decide, nofun⟩
  let wide : Field :=
    ⟨"row", .unsigned .one, [9223372036854775808], .big, by decide, by decide, nofun⟩
  have hsize : field.size < 2 ^ 63 := by decide
  have hwide : 2 ^ 63 ≤ wide.size := by decide
  have hmixed : field.encode
      (.array [.array [.unsigned 1, .signed 300], .array [.bool true, .unsigned 4]]) =
      .error (.outOfRange "grid" "300" (.unsigned .one)) := by
    decide +kernel
  have hmatrix : field.encode
      (.array [.array [.unsigned 1, .signed 2], .array [.signed 3, .unsigned 255]]) =
      .ok [1, 2, 3, 255] := by
    decide +kernel
  obtain ⟨hok, -, herror⟩ := (field.encode_accepts_conforming
    (.array [.array [.unsigned 1, .signed 300], .array [.bool true, .unsigned 4]])).1 hsize
  obtain ⟨hok', hlength, -⟩ := (field.encode_accepts_conforming
    (.array [.array [.unsigned 1, .signed 2], .array [.signed 3, .unsigned 255]])).1 hsize
  refine ⟨field, wide, by decide, hsize, fun h => ?_, (herror _).mp hmixed, hok'.mp ⟨_, hmatrix⟩,
    ⟨_, hmatrix, hlength _ hmatrix rfl⟩, hwide, (wide.encode_accepts_conforming _).2 hwide⟩
  obtain ⟨data, hdata⟩ := hok.mpr h
  exact nomatch hmixed.symm.trans hdata

/-- An integer is no array, and a field for many bytes says so where its bytes are appended to those
of others. On its own it stops the program before it looks at the integer. -/
theorem wide_field_stops :
    ∃ field : Field, field.text = "x: u8[9223372036854775808]" ∧ field.size < 2 ^ 64 ∧
      field.FirstOffence ((Value.unsigned 5).nodes field.shape)
        (.notAnArray "x" [9223372036854775808] "unsigned integer") ∧
      field.encodeInto (.unsigned 5) =
        .error (.notAnArray "x" [9223372036854775808] "unsigned integer") ∧
      field.encode (.unsigned 5) = .error .overflow := by
  let field : Field :=
    ⟨"x", .unsigned .one, [9223372036854775808], .big, by decide, by decide, nofun⟩
  exact ⟨field, by decide, by decide, .here (.notAnArray rfl) _, rfl,
    field.encode_of_size_le (by decide) _⟩

end Field

end GroundLink
