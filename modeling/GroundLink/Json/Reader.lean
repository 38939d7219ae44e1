import GroundLink.Json.Basic

/-!
# Reading JSON

A reader for JSON documents of any nesting below 128. Numbers that fit 64 bits stay whole. Any
other number becomes a double: its digits are collected into a 64-bit significand, digits that no
longer fit are dropped, and the significand is scaled by one power of ten, so that the result may
differ from the nearest double in its last bit.
-/

namespace GroundLink.Json

/-- Why a text is not a JSON document: the characters left when reading stopped. -/
structure ReadError where
  rest : List Char

/-- What a part of the reader gives: a value and the text behind it. -/
abbrev Reader (α : Type) := List Char → Except ReadError (α × List Char)

/-- Whether a character may stand between the parts of a document. -/
def isSpace (c : Char) : Bool :=
  c = ' ' || c = '\n' || c = '\t' || c = '\r'

/-- Without the spaces at the start. -/
def skipSpaces (cs : List Char) : List Char :=
  cs.dropWhile isSpace

/-- The largest number that a significand holds. -/
def significandLimit : Nat := 2 ^ 64 - 1

/-- Scale a significand by a power of ten, in steps of 308 where the power is smaller than any
divisor. No value stands for a number too large for a double. -/
def scaleDecimal? (fuel : Nat) (value : Double) (exponent : Int) : Option Double :=
  if exponent.natAbs ≤ 308 then
    let power := Double.ofDecimal false 1 exponent.natAbs
    if 0 ≤ exponent then
      let product := value.mul power
      if product.isInfinite then none else some product
    else some (value.div power)
  else if value.magnitude = 0 then some value
  else if 0 ≤ exponent then none
  else
    match fuel with
    | 0 => some (Double.zero false)
    | fuel + 1 => scaleDecimal? fuel (value.div (Double.ofDecimal false 1 308)) (exponent + 308)

/-- The double of a significand and a power of ten. -/
def doubleOfParts (positive : Bool) (significand : Nat) (exponent : Int) (rest : List Char) :
    Except ReadError (Json × List Char) :=
  match scaleDecimal? 3 (Double.ofInt significand) exponent with
  | some d => .ok (.double (if positive then d else d.neg), rest)
  | none => .error ⟨rest⟩

/-- The largest exponent that is read before the value is decided by its sign alone. -/
def exponentLimit : Nat := 2 ^ 31 - 1

/-- The exponent part behind its letter. -/
def readExponent (positive : Bool) (significand : Nat) (start : Int) (cs : List Char) :
    Except ReadError (Json × List Char) :=
  let (raised, digits) := match cs with
    | '+' :: rest => (true, rest)
    | '-' :: rest => (false, rest)
    | rest => (true, rest)
  let written := digits.takeWhile Char.isDigit
  let rest := digits.dropWhile Char.isDigit
  if written.isEmpty then .error ⟨digits⟩
  else
    let exponent := written.foldl (fun acc c => acc * 10 + (c.toNat - 48)) 0
    if exponentLimit < exponent then
      if significand ≠ 0 ∧ raised then .error ⟨rest⟩
      else .ok (.double (Double.zero !positive), rest)
    else
      doubleOfParts positive significand (if raised then start + exponent else start - exponent)
        rest

/-- An exponent part, if one follows. -/
def readScaled (positive : Bool) (significand : Nat) (exponent : Int) (cs : List Char) :
    Except ReadError (Json × List Char) :=
  match cs with
  | c :: rest =>
    if c = 'e' ∨ c = 'E' then readExponent positive significand exponent rest
    else doubleOfParts positive significand exponent cs
  | [] => doubleOfParts positive significand exponent []

/-- Collect digits into a significand as long as they fit; give the significand, the number of
digits taken and the digits that no longer fit. -/
def collectDigits : (significand taken : Nat) → List Char → Nat × Nat × List Char
  | significand, taken, [] => (significand, taken, [])
  | significand, taken, c :: rest =>
    let next := significand * 10 + (c.toNat - 48)
    if significandLimit < next then (significand, taken, c :: rest)
    else collectDigits next (taken + 1) rest

/-- The digits behind the point. -/
def readFraction (positive : Bool) (significand : Nat) (exponent : Int) (cs : List Char) :
    Except ReadError (Json × List Char) :=
  let digits := cs.takeWhile Char.isDigit
  let rest := cs.dropWhile Char.isDigit
  if digits.isEmpty then .error ⟨cs⟩
  else
    let (significand, taken, _) := collectDigits significand 0 digits
    readScaled positive significand (exponent - taken) rest

/-- A whole number that fits 64 bits; a negative zero and a negative number below the range are
doubles. -/
def wholeNumber (positive : Bool) (n : Nat) : Json :=
  if positive then .int n
  else if n = 0 ∨ 2 ^ 63 < n then .double (Double.ofInt n).neg
  else .int (-(n : Int))

/-- A number without its minus sign. -/
def readNumber (positive : Bool) (cs : List Char) : Except ReadError (Json × List Char) :=
  let digits := cs.takeWhile Char.isDigit
  let rest := cs.dropWhile Char.isDigit
  if digits.isEmpty || (digits.head? == some '0' && 1 < digits.length) then .error ⟨cs⟩
  else
    let (significand, _, dropped) := collectDigits 0 0 digits
    match rest with
    | '.' :: tail => readFraction positive significand dropped.length tail
    | c :: tail =>
      if c = 'e' ∨ c = 'E' then readExponent positive significand dropped.length tail
      else if dropped.isEmpty then .ok (wholeNumber positive significand, rest)
      else doubleOfParts positive significand dropped.length rest
    | [] =>
      if dropped.isEmpty then .ok (wholeNumber positive significand, [])
      else doubleOfParts positive significand dropped.length []

/-- The value of four hexadecimal digits. -/
def hexQuad? (cs : List Char) : Option (Nat × List Char) :=
  match cs with
  | a :: b :: c :: d :: rest => do
    let digits ← [a, b, c, d].mapM fun x =>
      if x.isDigit then some (x.toNat - 48)
      else if 'a' ≤ x ∧ x ≤ 'f' then some (x.toNat - 87)
      else if 'A' ≤ x ∧ x ≤ 'F' then some (x.toNat - 55)
      else none
    pure (digits.foldl (fun acc n => acc * 16 + n) 0, rest)
  | _ => none

/-- The character of a numeric escape, which takes two escapes for characters above the first
65536. -/
def readUnicodeEscape (cs : List Char) : Except ReadError (Char × List Char) :=
  match hexQuad? cs with
  | none => .error ⟨cs⟩
  | some (first, rest) =>
    if 0xDC00 ≤ first ∧ first ≤ 0xDFFF then .error ⟨rest⟩
    else if 0xD800 ≤ first ∧ first ≤ 0xDBFF then
      match rest with
      | '\\' :: 'u' :: more =>
        match hexQuad? more with
        | some (second, rest) =>
          if 0xDC00 ≤ second ∧ second ≤ 0xDFFF then
            .ok (Char.ofNat (0x10000 + (first - 0xD800) * 0x400 + (second - 0xDC00)), rest)
          else .error ⟨rest⟩
        | none => .error ⟨more⟩
      | _ => .error ⟨rest⟩
    else .ok (Char.ofNat first, rest)

/-- The character of an escape letter. -/
def escapeLetter? (c : Char) : Option Char :=
  if c = '"' ∨ c = '\\' ∨ c = '/' then some c
  else if c = 'b' then some '\x08'
  else if c = 'f' then some '\x0c'
  else if c = 'n' then some '\n'
  else if c = 'r' then some '\r'
  else if c = 't' then some '\t'
  else none

/-- The rest of a string behind its opening mark; `acc` holds its characters in reverse. -/
def readString (fuel : Nat) (acc : List Char) (cs : List Char) :
    Except ReadError (String × List Char) :=
  match fuel, cs with
  | 0, cs => .error ⟨cs⟩
  | _, [] => .error ⟨[]⟩
  | fuel + 1, c :: rest =>
    if c = '"' then .ok (String.ofList acc.reverse, rest)
    else if c = '\\' then
      match rest with
      | [] => .error ⟨[]⟩
      | 'u' :: more =>
        match readUnicodeEscape more with
        | .ok (c, rest) => readString fuel (c :: acc) rest
        | .error e => .error e
      | letter :: more =>
        match escapeLetter? letter with
        | some c => readString fuel (c :: acc) more
        | none => .error ⟨rest⟩
    else if c.toNat < 0x20 then .error ⟨cs⟩
    else readString fuel (c :: acc) rest

/-- Read a keyword. -/
def readWord (word : List Char) (value : Json) (cs : List Char) :
    Except ReadError (Json × List Char) :=
  if word.isPrefixOf cs then .ok (value, cs.drop word.length) else .error ⟨cs⟩

mutual

/-- Read a value of nesting below `depth`. -/
def readValue (fuel depth : Nat) (cs : List Char) : Except ReadError (Json × List Char) :=
  match fuel with
  | 0 => .error ⟨cs⟩
  | fuel + 1 =>
    match skipSpaces cs with
    | [] => .error ⟨[]⟩
    | 'n' :: rest => readWord ['u', 'l', 'l'] .null rest
    | 't' :: rest => readWord ['r', 'u', 'e'] (.bool true) rest
    | 'f' :: rest => readWord ['a', 'l', 's', 'e'] (.bool false) rest
    | '-' :: rest => readNumber false rest
    | '"' :: rest =>
      match readString rest.length.succ [] rest with
      | .ok (s, rest) => .ok (.string s, rest)
      | .error e => .error e
    | '[' :: rest =>
      if depth ≤ 1 then .error ⟨rest⟩
      else
        match skipSpaces rest with
        | ']' :: rest => .ok (.array [], rest)
        | rest => readItems fuel (depth - 1) [] rest
    | '\x7b' :: rest =>
      if depth ≤ 1 then .error ⟨rest⟩
      else
        match skipSpaces rest with
        | '\x7d' :: rest => .ok (.object [], rest)
        | rest => readMembers fuel (depth - 1) [] rest
    | rest => readNumber true rest

/-- Read the items of an array that is not empty; `acc` holds the earlier ones in reverse. -/
def readItems (fuel depth : Nat) (acc : List Json) (cs : List Char) :
    Except ReadError (Json × List Char) :=
  match fuel with
  | 0 => .error ⟨cs⟩
  | fuel + 1 =>
    match readValue fuel depth cs with
    | .error e => .error e
    | .ok (item, rest) =>
      match skipSpaces rest with
      | ',' :: rest => readItems fuel depth (item :: acc) rest
      | ']' :: rest => .ok (.array (item :: acc).reverse, rest)
      | rest => .error ⟨rest⟩

/-- Read the members of an object that is not empty; `acc` holds the earlier ones in reverse. -/
def readMembers (fuel depth : Nat) (acc : List (String × Json)) (cs : List Char) :
    Except ReadError (Json × List Char) :=
  match fuel with
  | 0 => .error ⟨cs⟩
  | fuel + 1 =>
    match skipSpaces cs with
    | '"' :: rest =>
      match readString rest.length.succ [] rest with
      | .error e => .error e
      | .ok (name, rest) =>
        match skipSpaces rest with
        | ':' :: rest =>
          match readValue fuel depth rest with
          | .error e => .error e
          | .ok (value, rest) =>
            match skipSpaces rest with
            | ',' :: rest => readMembers fuel depth ((name, value) :: acc) rest
            | '\x7d' :: rest => .ok (.object ((name, value) :: acc).reverse, rest)
            | rest => .error ⟨rest⟩
        | rest => .error ⟨rest⟩
    | rest => .error ⟨rest⟩

end

/-- A position in words: the line and the column of the last character read. -/
def positionText (text : List Char) (rest : List Char) : String :=
  let read := text.take (text.length - rest.length)
  let line := read.count '\n' + 1
  let column := (read.reverse.takeWhile (· != '\n')).length
  s!"invalid document at line {line} column {column}"

/-- Read a whole document; the error is in words. -/
def read (document : String) : Except String Json :=
  let text := document.toList
  match readValue (2 * text.length + 2) 128 text with
  | .error e => .error (positionText text e.rest)
  | .ok (value, rest) =>
    match skipSpaces rest with
    | [] => .ok value
    | rest => .error (positionText text rest)

end GroundLink.Json
