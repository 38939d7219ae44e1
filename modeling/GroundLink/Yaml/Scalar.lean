import GroundLink.Yaml.Cursor

/-!
# Scalars of a YAML text

The three notations of a scalar: plain, quoted, and block. Each reader gives the text of the scalar
and the cursor behind it, and nothing for a text that breaks the notation. Line breaks inside plain
and quoted scalars are folded: a single one becomes a space, of several the first is dropped.
-/

namespace GroundLink.Yaml

/-- White space between two words of a scalar. -/
structure Gap where
  /-- Blanks seen before any line break. -/
  blanks : List Char
  /-- The first line break. -/
  first : List Char
  /-- The later line breaks. -/
  later : List Char
  /-- Whether a line break was seen. -/
  broken : Bool

/-- No white space. -/
def Gap.none : Gap := ⟨[], [], [], false⟩

/-- What white space becomes in the text of a scalar. -/
def Gap.folded (gap : Gap) : List Char :=
  if gap.broken then
    if gap.first = ['\n'] then (if gap.later = [] then [' '] else gap.later)
    else gap.first ++ gap.later
  else gap.blanks

/-- Read white space. Inside a plain scalar no tab may stand in for indentation below `indent`. -/
def readGap (fuel indent : Nat) (gap : Gap) (c : Cursor) : Option (Gap × Cursor) :=
  match fuel, c.peek with
  | 0, _ => some (gap, c)
  | _, none => some (gap, c)
  | fuel + 1, some x =>
    if isBlank x then
      if gap.broken then
        if c.column < indent ∧ x = '\t' then none else readGap fuel indent gap c.skip
      else readGap fuel indent { gap with blanks := gap.blanks ++ [x] } c.skip
    else if isBreak x then
      if gap.broken then
        readGap fuel indent { gap with later := gap.later ++ c.breakText } c.skipBreak
      else
        readGap fuel indent { gap with blanks := [], first := c.breakText, broken := true }
          c.skipBreak
    else some (gap, c)

/-- Whether a character is punctuation of a flow collection. -/
def isFlowMark (c : Char) : Bool :=
  c = ',' || c = '[' || c = ']' || c = '\x7b' || c = '\x7d'

/-- Read the characters of one word of a plain scalar; inside a flow collection a colon before
punctuation is refused. -/
def readPlainWord (flow : Bool) (fuel : Nat) (acc : List Char) (c : Cursor) :
    Option (List Char × Cursor) :=
  match fuel, c.peek with
  | 0, _ => some (acc.reverse, c)
  | _, none => some (acc.reverse, c)
  | fuel + 1, some x =>
    if isBlank x || isBreak x then some (acc.reverse, c)
    else if flow && x = ':' && (c.peekAt 1).any (fun y => isFlowMark y || y = '?') then none
    else if (x = ':' && c.isGapAt 1) || (flow && isFlowMark x) then some (acc.reverse, c)
    else readPlainWord flow fuel (x :: acc) c.skip

/-- The text of pieces that were read one after another, the last of them first. -/
def joinPieces (pieces : List (List Char)) : String :=
  String.ofList pieces.reverse.flatten

/-- Read a plain scalar whose continuation lines are indented by at least `indent`, behind the
pieces that were read before. The flag says whether a line break was passed behind the last word. -/
def readPlain (flow : Bool) (indent : Nat) (fuel : Nat) (pieces : List (List Char)) (gap : Gap)
    (c : Cursor) : Option (String × Bool × Cursor) :=
  match fuel with
  | 0 => none
  | fuel + 1 =>
    if c.atDocumentMark || c.isAt '#' then some (joinPieces pieces, gap.broken, c)
    else
      match readPlainWord flow fuel.succ [] c with
      | none => none
      | some (word, next) =>
        let (pieces, gap) :=
          if word = [] then (pieces, gap) else (word :: gap.folded :: pieces, Gap.none)
        if next.atBlank || next.atBreak then
          match readGap fuel.succ indent gap next with
          | none => none
          | some (gap, next) =>
            if !flow && next.column < indent then some (joinPieces pieces, gap.broken, next)
            else readPlain flow indent fuel pieces gap next
        else some (joinPieces pieces, gap.broken, next)

/-- The value of a hexadecimal digit. -/
def hexValue? (c : Char) : Option Nat :=
  if c.isDigit then some (c.toNat - 48)
  else if 'a' ≤ c ∧ c ≤ 'f' then some (c.toNat - 87)
  else if 'A' ≤ c ∧ c ≤ 'F' then some (c.toNat - 55)
  else none

/-- The character of a one-letter escape. -/
def escapeLetter? (c : Char) : Option Char :=
  if c = '0' then some '\x00'
  else if c = 'a' then some '\x07'
  else if c = 'b' then some '\x08'
  else if c = 't' ∨ c = '\t' then some '\t'
  else if c = 'n' then some '\n'
  else if c = 'v' then some '\x0b'
  else if c = 'f' then some '\x0c'
  else if c = 'r' then some '\r'
  else if c = 'e' then some '\x1b'
  else if c = ' ' ∨ c = '"' ∨ c = '/' ∨ c = '\\' then some c
  else if c = 'N' then some '\u0085'
  else if c = '_' then some '\u00a0'
  else if c = 'L' then some '\u2028'
  else if c = 'P' then some '\u2029'
  else none

/-- The number of digits of a numeric escape. -/
def escapeDigits? (c : Char) : Option Nat :=
  if c = 'x' then some 2 else if c = 'u' then some 4 else if c = 'U' then some 8 else none

/-- Read an escape behind its backslash. -/
def readEscape (c : Cursor) : Option (Char × Cursor) := do
  let letter ← c.peek
  match escapeDigits? letter with
  | some count =>
    let digits := c.skip.rest.take count
    if digits.length < count then none
    else do
      let values ← digits.mapM hexValue?
      let code := values.foldl (fun acc d => acc * 16 + d) 0
      if (0xD800 ≤ code ∧ code ≤ 0xDFFF) ∨ 0x10FFFF < code then none
      else some (Char.ofNat code, c.skip.skipMany count)
  | none => do
    let char ← escapeLetter? letter
    some (char, c.skip)

/-- Read the characters of a quoted scalar up to white space, the closing mark, or an escaped line
break, which the flag reports. -/
def readQuotedWord (single : Bool) (fuel : Nat) (acc : List Char) (c : Cursor) :
    Option (List Char × Bool × Cursor) :=
  match fuel, c.peek with
  | 0, _ => some (acc.reverse, false, c)
  | _, none => some (acc.reverse, false, c)
  | fuel + 1, some x =>
    if isBlank x || isBreak x then some (acc.reverse, false, c)
    else if single then
      if x = '\'' then
        if c.peekAt 1 = some '\'' then readQuotedWord single fuel ('\'' :: acc) (c.skipMany 2)
        else some (acc.reverse, false, c)
      else readQuotedWord single fuel (x :: acc) c.skip
    else if x = '"' then some (acc.reverse, false, c)
    else if x = '\\' then
      if (c.peekAt 1).any isBreak then some (acc.reverse, true, c.skip.skipBreak)
      else
        match readEscape c.skip with
        | some (char, next) => readQuotedWord single fuel (char :: acc) next
        | none => none
    else readQuotedWord single fuel (x :: acc) c.skip

/-- Read a quoted scalar up to its closing mark, behind the pieces that were read before. -/
def readQuoted (single : Bool) (fuel : Nat) (pieces : List (List Char)) (c : Cursor) :
    Option (String × Cursor) :=
  match fuel with
  | 0 => none
  | fuel + 1 =>
    if c.atDocumentMark || c.atEnd then none
    else
      match readQuotedWord single fuel.succ [] c with
      | none => none
      | some (word, escaped, next) =>
        if next.isAt (if single then '\'' else '"') then
          some (joinPieces (word :: pieces), next.skip)
        else
          match readGap fuel.succ 0 { Gap.none with broken := escaped } next with
          | none => none
          | some (gap, next) => readQuoted single fuel (gap.folded :: word :: pieces) next

/-- What happens to the line breaks at the end of a block scalar. -/
inductive Chomping where
  | strip
  | clip
  | keep
deriving DecidableEq

/-- Read a chomping mark. -/
def readChomping (c : Cursor) : Option (Chomping × Cursor) :=
  if c.isAt '+' then some (.keep, c.skip) else if c.isAt '-' then some (.strip, c.skip) else none

/-- Read an indentation digit; zero is refused, no digit is zero. -/
def readIncrement (c : Cursor) : Option (Nat × Cursor) :=
  match c.peek with
  | some x =>
    if x = '0' then none
    else if x.isDigit then some (x.toNat - 48, c.skip)
    else some (0, c)
  | none => some (0, c)

/-- Read the chomping mark and the indentation digit of a block scalar, in either order. -/
def readBlockHeader (c : Cursor) : Option (Chomping × Nat × Cursor) :=
  match readChomping c with
  | some (chomping, next) => do
    let (increment, next) ← readIncrement next
    some (chomping, increment, next)
  | none => do
    let (increment, next) ← readIncrement c
    if increment = 0 then some (.clip, 0, next)
    else
      match readChomping next with
      | some (chomping, next) => some (chomping, increment, next)
      | none => some (.clip, increment, next)

/-- Read indentation and empty lines. With no indentation known yet, `deepest` collects the largest
one seen. -/
def readBlockBreaks (indent : Nat) (fuel deepest : Nat) (acc : List Char) (c : Cursor) :
    Option (List Char × Nat × Cursor) :=
  match fuel with
  | 0 => some (acc, deepest, c)
  | fuel + 1 =>
    let spaces := (c.rest.takeWhile (· = ' ')).length
    let c := c.skipMany (if indent = 0 then spaces else min spaces (indent - c.column))
    let deepest := max deepest c.column
    if (indent = 0 ∨ c.column < indent) ∧ c.isAt '\t' then none
    else if c.atBreak then readBlockBreaks indent fuel deepest (acc ++ c.breakText) c.skipBreak
    else some (acc, deepest, c)

/-- Read the lines of a block scalar indented by `indent`, behind the pieces that were read before;
`lead` is the break before the line at hand, `breaks` the empty lines after it. -/
def readBlockLines (literal : Bool) (indent : Nat) (fuel : Nat) (pieces : List (List Char))
    (lead breaks : List Char) (leadBlank : Bool) (c : Cursor) :
    Option (List (List Char) × List Char × List Char × Cursor) :=
  match fuel with
  | 0 => none
  | fuel + 1 =>
    if c.column ≠ indent ∨ c.atEnd then some (pieces, lead, breaks, c)
    else
      let blank := c.atBlank
      let lead :=
        if !literal && lead = ['\n'] && !leadBlank && !blank then
          (if breaks = [] then [' '] else [])
        else lead
      let line := c.rest.takeWhile (!isBreak ·)
      let next := c.skipMany line.length
      let pieces := line :: breaks :: lead :: pieces
      match readBlockBreaks indent fuel.succ 0 [] next.skipBreak with
      | none => none
      | some (breaks, _, after) =>
        readBlockLines literal indent fuel pieces next.breakText breaks blank after

/-- Read a block scalar behind its mark, inside a collection indented by `outer`. -/
def readBlock (literal : Bool) (outer : Int) (c : Cursor) : Option (String × Cursor) := do
  let (chomping, increment, c) ← readBlockHeader c
  let c := c.skipWhile isBlank
  let c := if c.isAt '#' then c.skipLine else c
  if !c.atEnd && !c.atBreak then none
  else do
    let c := c.skipBreak
    let fixed := if increment = 0 then 0 else (max outer 0).toNat + increment
    let (breaks, deepest, c) ← readBlockBreaks fixed c.rest.length.succ 0 [] c
    let indent := if fixed = 0 then max deepest (max (outer + 1).toNat 1) else fixed
    let (pieces, lead, breaks, c) ←
      readBlockLines literal indent c.rest.length.succ [] [] breaks false c
    let pieces := if chomping = .strip then pieces else lead :: pieces
    let pieces := if chomping = .keep then breaks :: pieces else pieces
    some (joinPieces pieces, c)

end GroundLink.Yaml
