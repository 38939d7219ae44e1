import GroundLink.Text.Unprintable

/-!
# Quoted text

A text between quotation marks that shows every character: a backslash and the closing mark are
escaped, common controls have a letter, and any other character that would not be visible on its
own is written by its code point.
-/

namespace GroundLink.Text

/-- The lower-case hexadecimal digits of a number. -/
def hexNumber (n : Nat) : String :=
  String.ofList (Nat.toDigits 16 n)

/-- One character inside quotation marks `mark`. -/
def quotedChar (mark : Char) (c : Char) : String :=
  if c = '\x00' then "\\0"
  else if c = '\t' then "\\t"
  else if c = '\r' then "\\r"
  else if c = '\n' then "\\n"
  else if c = '\\' then "\\\\"
  else if c = mark then String.ofList ['\\', c]
  else if isCombining c || isUnprintable c then "\\u\x7b" ++ hexNumber c.toNat ++ "\x7d"
  else String.singleton c

/-- A text between double quotation marks. -/
def quoted (text : String) : String :=
  "\"" ++ String.join (text.toList.map (quotedChar '"')) ++ "\""

/-- A single character between apostrophes. -/
def quotedSingle (c : Char) : String :=
  "'" ++ quotedChar '\'' c ++ "'"

end GroundLink.Text
