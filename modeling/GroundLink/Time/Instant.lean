import GroundLink.Time.Calendar
import GroundLink.Bytes

/-!
# Reading instants

A date and time in the format of RFC 3339: date, one separating letter or blank, time with optional
decimals, and the offset from universal time. The date and the time stand at fixed places and are
read first, so a text that is too short for them is refused before any character is looked at.
-/

namespace GroundLink.Calendar

/-- Why a text is not an instant. -/
inductive InstantError where
  | tooShort
  | invalid
  | outOfRange
  | trailing
deriving DecidableEq, Repr

/-- The cause in words. -/
def InstantError.message : InstantError → String
  | .tooShort => "premature end of input"
  | .invalid => "input contains invalid characters"
  | .outOfRange => "input is out of range"
  | .trailing => "trailing input"

/-- The value of an ASCII digit. -/
def digit (code : UInt8) : Except InstantError Nat :=
  if 48 ≤ code ∧ code ≤ 57 then .ok (code.toNat - 48) else .error .invalid

/-- The number of consecutive digits at an offset. -/
def digitsAt (text : Bytes) (offset count : Nat) : Except InstantError Nat :=
  ((text.drop offset).take count).foldlM (fun acc code => do pure (acc * 10 + (← digit code))) 0

/-- Check that one of some characters stands at an offset. -/
def expectAt (text : Bytes) (offset : Nat) (allowed : List Char) : Except InstantError Unit :=
  match text[offset]? with
  | some code =>
    if allowed.any fun c => c.toNat = code.toNat then .ok () else .error .invalid
  | none => .error .tooShort

/-- Decimals of a second are read and dropped. -/
def skipDecimals (text : Bytes) : Except InstantError Bytes :=
  match text with
  | [] => .error .tooShort
  | code :: _ => do
    let _ ← digit code
    pure (text.dropWhile fun code => 48 ≤ code && code ≤ 57)

/-- The offset from universal time in seconds, and the text behind it. A minus sign may also be the
mathematical one. -/
def readOffset (text : Bytes) : Except InstantError (Int × Bytes) := do
  let signed : Except InstantError (Option Int × Bytes) :=
    match text with
    | [] => .error .tooShort
    | 0x5A :: rest => .ok (none, rest)
    | 0x7A :: rest => .ok (none, rest)
    | 0x2B :: rest => .ok (some 1, rest)
    | 0x2D :: rest => .ok (some (-1), rest)
    | 0xE2 :: 0x88 :: 0x92 :: rest => .ok (some (-1), rest)
    | _ => .error .invalid
  match ← signed with
  | (none, rest) => pure (0, rest)
  | (some sign, rest) =>
    if rest.length < 2 then throw .tooShort
    let hours ← digitsAt rest 0 2
    expectAt rest 2 [':']
    let rest := rest.drop 3
    match rest with
    | tens :: ones :: rest =>
      let tens ← digit tens
      let ones ← digit ones
      if 6 ≤ tens then throw .outOfRange
      pure (sign * (hours * 3600 + (tens * 10 + ones) * 60 : Nat), rest)
    | _ => throw .tooShort

/-- The largest offset, one minute below a day. -/
def maxOffset : Nat := (23 * 60 + 59) * 60

/-- Read an instant as seconds from the start of the year 0 in universal time. A leap second counts
as the second before it. -/
def readInstant (text : Bytes) : Except InstantError Int := do
  if text.length < 19 then throw .tooShort
  let year ← digitsAt text 0 4
  expectAt text 4 ['-']
  let month ← digitsAt text 5 2
  expectAt text 7 ['-']
  let day ← digitsAt text 8 2
  let date : Date := ⟨year, month, day⟩
  if !date.isValid then throw .outOfRange
  expectAt text 10 ['t', 'T', ' ']
  let hour ← digitsAt text 11 2
  expectAt text 13 [':']
  let minute ← digitsAt text 14 2
  expectAt text 16 [':']
  let second ← digitsAt text 17 2
  let second := if second = 60 then 59 else second
  let rest := text.drop 19
  let rest ← match rest with
    | 0x2E :: decimals => skipDecimals decimals
    | rest => pure rest
  if 24 ≤ hour ∨ 60 ≤ minute ∨ 60 ≤ second then throw .outOfRange
  let (offset, rest) ← readOffset rest
  if !rest.isEmpty then throw .trailing
  if maxOffset < offset.natAbs then throw .outOfRange
  pure (date.dayNumber * 86400 + hour * 3600 + minute * 60 + second - offset)

end GroundLink.Calendar
