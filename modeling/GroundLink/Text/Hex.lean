import GroundLink.Bytes
import GroundLink.Text.Quoted

/-!
# Hexadecimal text

Bytes as pairs of hexadecimal digits, high digit first. Writing uses lower-case letters; reading
takes either case and says what is wrong with a text that is no such list of pairs.
-/

namespace GroundLink.Text

/-- The hexadecimal digit of a number below sixteen. -/
def hexDigit (n : Nat) : Char :=
  if n < 10 then Char.ofNat (48 + n) else Char.ofNat (87 + n)

/-- The two digits of a byte. -/
def hexPair (byte : UInt8) : List Char :=
  [hexDigit (byte.toNat / 16), hexDigit (byte.toNat % 16)]

/-- Bytes in lower-case hexadecimal. -/
def hex (bytes : Bytes) : String :=
  String.ofList (bytes.flatMap hexPair)

/-- A number in upper-case hexadecimal with at least `width` digits. -/
def hexUpper (width n : Nat) : String :=
  let digits := (Nat.toDigits 16 n).map Char.toUpper
  String.ofList (List.replicate (width - digits.length) '0' ++ digits)

/-- Why a text is not a list of hexadecimal pairs. -/
inductive HexError where
  /-- A digit is left without a partner. -/
  | oddLength
  /-- The character at this byte offset is no digit. -/
  | badDigit (c : Char) (offset : Nat)
deriving DecidableEq, Repr

/-- The cause in words. -/
def HexError.message : HexError → String
  | .oddLength => "Odd number of digits"
  | .badDigit c offset => s!"Invalid character {quotedSingle c} at position {offset}"

/-- The value of a hexadecimal digit, given as an ASCII code. -/
def hexValue? (code : UInt8) : Option UInt8 :=
  if 48 ≤ code ∧ code ≤ 57 then some (code - 48)
  else if 97 ≤ code ∧ code ≤ 102 then some (code - 87)
  else if 65 ≤ code ∧ code ≤ 70 then some (code - 55)
  else none

/-- Read pairs of digits, given as ASCII codes, from a byte offset on. -/
def readHexPairs (offset : Nat) : Bytes → Except HexError Bytes
  | [] => .ok []
  | [_] => .error .oddLength
  | high :: low :: rest =>
    match hexValue? high, hexValue? low with
    | some h, some l => (readHexPairs (offset + 2) rest).map ((h * 16 + l) :: ·)
    | none, _ => .error (.badDigit (Char.ofNat high.toNat) offset)
    | some _, none => .error (.badDigit (Char.ofNat low.toNat) (offset + 1))

/-- Read a list of hexadecimal pairs. Its length is judged before its digits. -/
def readHex (text : String) : Except HexError Bytes :=
  let codes := utf8 text
  if codes.length % 2 = 1 then .error .oddLength else readHexPairs 0 codes

end GroundLink.Text
