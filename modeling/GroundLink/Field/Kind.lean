import GroundLink.Numeral
import GroundLink.Text.Blank

/-!
# Kinds and type strings

A field holds scalars of one kind, alone or in an array of one or two dimensions. A type string
names the kind and the dimensions, as in `u16`, `f32[3]` or `f64[3][3]`.
-/

namespace GroundLink

/-- The widths of an integer on the wire. -/
inductive Width where
  | one
  | two
  | four
  | eight
deriving DecidableEq, Repr

/-- A width in bytes. -/
def Width.bytes : Width → Nat
  | one => 1
  | two => 2
  | four => 4
  | eight => 8

/-- A width in bits. -/
def Width.bits (w : Width) : Nat :=
  8 * w.bytes

/-- The order of the bytes of a scalar on the wire. -/
inductive ByteOrder where
  | big
  | little
deriving DecidableEq, Repr

/-- The name of a byte order. -/
def ByteOrder.name : ByteOrder → String
  | big => "big"
  | little => "little"

/-- The byte order of a name. -/
def ByteOrder.ofName? : String → Option ByteOrder
  | "big" => some big
  | "little" => some little
  | _ => none

/-- What a field holds. -/
inductive Kind where
  | unsigned (width : Width)
  | signed (width : Width)
  | float32
  | float64
  | bool
  | timestamp
  /-- Bytes up to the end of the message. -/
  | bytes
  /-- Text up to the end of the message. -/
  | text
deriving DecidableEq, Repr

namespace Kind

/-- The bytes of one scalar; kinds of variable length have none of their own. -/
def elementSize : Kind → Nat
  | unsigned w => w.bytes
  | signed w => w.bytes
  | float32 => 4
  | float64 => 8
  | bool => 1
  | timestamp => 4
  | bytes => 0
  | text => 0

/-- Whether the length varies from message to message. -/
def isVariable : Kind → Bool
  | bytes | text => true
  | _ => false

/-- Whether the kind is an unsigned integer. -/
def isUnsigned : Kind → Bool
  | unsigned _ => true
  | _ => false

/-- Whether the kind is a signed integer. -/
def isSigned : Kind → Bool
  | signed _ => true
  | _ => false

/-- Whether the kind is a floating-point number. -/
def isFloat : Kind → Bool
  | float32 | float64 => true
  | _ => false

/-- The name of a kind. -/
def name : Kind → String
  | unsigned w => s!"u{w.bits}"
  | signed w => s!"i{w.bits}"
  | float32 => "f32"
  | float64 => "f64"
  | bool => "bool"
  | timestamp => "datetime"
  | bytes => "bytes"
  | text => "str"

/-- The kind of a name or of one of its aliases, in any letter case. -/
def ofTag? (tag : String) : Option Kind :=
  match (Text.trimmed tag).toLower with
  | "u8" | "uint8" | "byte" => some (unsigned .one)
  | "u16" | "uint16" => some (unsigned .two)
  | "u32" | "uint32" => some (unsigned .four)
  | "u64" | "uint64" => some (unsigned .eight)
  | "i8" | "int8" => some (signed .one)
  | "i16" | "int16" => some (signed .two)
  | "i32" | "int32" => some (signed .four)
  | "i64" | "int64" => some (signed .eight)
  | "f32" | "float" => some float32
  | "f64" | "double" => some float64
  | "bool" => some bool
  | "datetime" | "time" => some timestamp
  | "bytes" | "raw" => some bytes
  | "str" | "string" => some text
  | _ => none

end Kind

/-- The kind and the dimensions of a field. -/
structure TypeSpec where
  kind : Kind
  shape : List UInt64
deriving DecidableEq, Repr

/-- What is wrong with a type string. -/
inductive TypeFault where
  | unknownKind (tag : String)
  | expectedBracket
  | unclosedBracket
  | badDimension (dimension : String)
  | tooManyDimensions
deriving DecidableEq, Repr

/-- The most dimensions of a field. -/
def maxDimensions : Nat := 2

/-- The cause in words. -/
def TypeFault.message : TypeFault → String
  | unknownKind tag => s!"unknown kind '{tag}'"
  | expectedBracket => "expected '['"
  | unclosedBracket => "unclosed '['"
  | badDimension dimension => s!"bad dimension '{dimension}'"
  | tooManyDimensions => s!"at most {maxDimensions} dimensions supported"

namespace TypeSpec

/-- A type string. -/
def text (t : TypeSpec) : String :=
  t.kind.name ++ String.join (t.shape.map fun dimension => s!"[{dimension.toNat}]")

/-- Cutting at the end never lengthens. -/
theorem length_trimEnd_le (text : List Char) : (Text.trimEnd text).length ≤ text.length := by
  simpa [Text.trimEnd] using (List.dropWhile_sublist Text.isBlank (l := text.reverse)).length_le

/-- Read dimensions in brackets up to the end of the text, with blanks around brackets and
numbers. -/
def readShape (text : List Char) : Except TypeFault (List UInt64) :=
  if text = [] then .ok []
  else
    match hopen : Text.trimStart text with
    | '[' :: inner =>
      let dimension := inner.takeWhile (· != ']')
      match hclose : inner.dropWhile (· != ']') with
      | [] => .error .unclosedBracket
      | _ :: after =>
        match Numeral.readUnsigned 10 64 (Text.trim dimension) with
        | .error _ => .error (.badDimension (String.ofList dimension))
        | .ok n =>
          have : (Text.trimEnd after).length < text.length := by
            have h1 := (List.dropWhile_sublist Text.isBlank (l := text)).length_le
            have h2 := (List.dropWhile_sublist (· != ']') (l := inner)).length_le
            have h3 := length_trimEnd_le after
            simp only [Text.trimStart] at hopen
            rw [hopen] at h1
            rw [hclose] at h2
            simp only [List.length_cons] at h1 h2
            omega
          (readShape (Text.trimEnd after)).map (UInt64.ofNat n :: ·)
    | _ => .error .expectedBracket
termination_by text.length

/-- Read a type string. -/
def parse (text : String) : Except TypeFault TypeSpec :=
  let trimmed := Text.trim text.toList
  let tag := String.ofList (trimmed.takeWhile (· != '['))
  match Kind.ofTag? tag with
  | none => .error (.unknownKind (Text.trimmed tag))
  | some kind => do
    let shape ← readShape (trimmed.dropWhile (· != '['))
    if maxDimensions < shape.length then throw .tooManyDimensions
    pure ⟨kind, shape⟩

end TypeSpec

end GroundLink
