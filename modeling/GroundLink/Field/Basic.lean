import GroundLink.Field.Kind

/-!
# Fields

A field is a named place in a message body. What it holds takes a fixed number of bytes, unless its
kind runs to the end of the message. Sizes are 64-bit words, and the arithmetic on them is checked:
a number that does not fit a word stops the program.
-/

namespace GroundLink

/-- The 64-bit word of a number, unless the number does not fit one. -/
def Word.ofNat? (n : Nat) : Option UInt64 :=
  if n < 2 ^ 64 then some (UInt64.ofNat n) else none

/-- Dimensions as a bracketed list. -/
def shapeText (shape : List UInt64) : String :=
  "[" ++ ", ".intercalate (shape.map fun dimension => toString dimension.toNat) ++ "]"

/-- What the program stops with where the arithmetic on sizes or numbers overflows. -/
def overflowText : String :=
  "arithmetic overflow"

/-- Why fields cannot be built or put together. -/
inductive FieldError where
  | emptyShape (field : String) (shape : List UInt64)
  | tooManyDimensions (field : String) (count : Nat)
  | variableArray (field : String)
  | multipleVariable (first second : String)
  | variableNotLast (field : String)
  | duplicateName (name : String)
  | invalidType (type : String) (fault : TypeFault)
  /-- A size does not fit its word. This is no answer: the program stops. -/
  | overflow
deriving DecidableEq, Repr

/-- The cause in words. -/
def FieldError.message : FieldError → String
  | emptyShape field shape => s!"field '{field}': array shape {shapeText shape} has no elements"
  | tooManyDimensions field count =>
    s!"field '{field}': at most two array dimensions are supported, got {count}"
  | variableArray field => s!"field '{field}': variable-length field cannot be an array"
  | multipleVariable first second => s!"fields '{first}' and '{second}' are both variable-length"
  | variableNotLast field => s!"variable-length field '{field}' must be the last field"
  | duplicateName name => s!"duplicate field name '{name}'"
  | invalidType type fault => s!"invalid type string '{type}': {fault.message}"
  | overflow => overflowText

/-- A named place in a message body. -/
structure Field where
  name : String
  kind : Kind
  shape : List UInt64
  order : ByteOrder
  /-- At most two dimensions. -/
  shape_length : shape.length ≤ maxDimensions
  /-- No dimension is empty. -/
  shape_nonzero : 0 ∉ shape
  /-- A field of variable length is no array. -/
  variable_scalar : kind.isVariable = true → shape = []
deriving DecidableEq

namespace Field

/-- A field without dimensions. -/
def scalar (name : String) (kind : Kind) : Field where
  name := name
  kind := kind
  shape := []
  order := .big
  shape_length := Nat.zero_le _
  shape_nonzero := List.not_mem_nil
  variable_scalar _ := rfl

/-- A field of a kind and a shape. -/
def make (name : String) (kind : Kind) (shape : List UInt64) : Except FieldError Field :=
  if h1 : shape.length ≤ maxDimensions then
    if h2 : 0 ∈ shape then .error (.emptyShape name shape)
    else if h3 : kind.isVariable = true ∧ shape ≠ [] then .error (.variableArray name)
    else
      .ok ⟨name, kind, shape, .big, h1, h2,
        fun hk => Decidable.byContradiction fun hs => h3 ⟨hk, hs⟩⟩
  else .error (.tooManyDimensions name shape.length)

/-- The same field with another byte order. -/
def withOrder (field : Field) (order : ByteOrder) : Field :=
  { field with order := order }

/-- A field of a type string. -/
def ofType (name type : String) (order : ByteOrder) : Except FieldError Field :=
  match TypeSpec.parse type with
  | .error fault => .error (.invalidType type fault)
  | .ok spec => (make name spec.kind spec.shape).map (·.withOrder order)

/-- The number of scalars, unless it does not fit a word. -/
def elementCount (field : Field) : Option UInt64 :=
  field.shape.foldlM (fun count dimension => Word.ofNat? (count.toNat * dimension.toNat)) 1

/-- The number of bytes, or zero where the length varies. There is none if it does not fit a
word. -/
def byteSize (field : Field) : Option UInt64 := do
  let count ← field.elementCount
  Word.ofNat? (field.kind.elementSize * count.toNat)

/-- Whether the length varies from message to message. -/
def isVariable (field : Field) : Bool :=
  field.kind.isVariable

/-- Whether the field has dimensions. -/
def isArray (field : Field) : Bool :=
  !field.shape.isEmpty

/-- The type string of the field. -/
def typeText (field : Field) : String :=
  TypeSpec.text ⟨field.kind, field.shape⟩

/-- The field as it is declared. -/
def text (field : Field) : String :=
  field.name ++ ": " ++ field.typeText

end Field

end GroundLink
