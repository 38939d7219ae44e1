/-!
# Byte strings

Byte strings are lists of bytes. Numbers enter and leave them most significant byte first, and a
long string is cut into pieces of one length.
-/

namespace GroundLink

/-- A string of bytes, first byte first. -/
abbrev Bytes := List UInt8

namespace Bytes

/-- The number that a byte string writes in base 256, most significant byte first. -/
def toNat (bytes : Bytes) : Nat :=
  bytes.foldl (fun acc byte => acc * 256 + byte.toNat) 0

/-- The lowest `width` base-256 digits of a number, most significant first. -/
def ofNat : (width : Nat) → (n : Nat) → Bytes
  | 0, _ => []
  | width + 1, n => ofNat width (n / 256) ++ [UInt8.ofNat (n % 256)]

/-- The bytes of a 16-bit word. -/
def ofUInt16 (word : UInt16) : Bytes :=
  ofNat 2 word.toNat

/-- The bytes of a 32-bit word. -/
def ofUInt32 (word : UInt32) : Bytes :=
  ofNat 4 word.toNat

/-- The 16-bit word that the first two bytes write. -/
def toUInt16 (bytes : Bytes) : UInt16 :=
  UInt16.ofNat (toNat (bytes.take 2))

/-- The 32-bit word that the first four bytes write. -/
def toUInt32 (bytes : Bytes) : UInt32 :=
  UInt32.ofNat (toNat (bytes.take 4))

/-- Cut into consecutive pieces of `size` bytes, the last one possibly shorter. Pieces of size
zero would never end. No field asks for them (`Bytes.CutsBy`), and here there are none. -/
def pieces (size : Nat) (bytes : Bytes) : List Bytes :=
  if h : size = 0 ∨ bytes = [] then []
  else
    have : (bytes.drop size).length < bytes.length := by
      obtain ⟨hsize, hne⟩ := not_or.mp h
      have := List.length_pos_iff.mpr hne
      simp only [List.length_drop]
      omega
    bytes.take size :: pieces size (bytes.drop size)
termination_by bytes.length

/-- Drop the zero bytes at the end. -/
def trimZeros (bytes : Bytes) : Bytes :=
  (bytes.reverse.dropWhile (· == 0)).reverse

/-- A byte string of `width` digits has `width` bytes. -/
@[simp]
theorem length_ofNat (width n : Nat) : (ofNat width n).length = width := by
  induction width generalizing n with
  | zero => rfl
  | succ width ih => simp [ofNat, ih]

end Bytes

/-- The bytes of a text in UTF-8. -/
def utf8 (text : String) : Bytes :=
  text.toUTF8.toList

/-- The text that bytes write in UTF-8, if they write one. -/
def ofUtf8? (bytes : Bytes) : Option String :=
  String.fromUTF8? bytes.toByteArray

end GroundLink
