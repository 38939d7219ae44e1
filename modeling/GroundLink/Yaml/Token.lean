import GroundLink.Yaml.Scalar
import GroundLink.Yaml.Tag

/-!
# Tokens of a YAML text

The scanner turns a text into tokens. Indentation becomes explicit: a block collection is opened
where the first of its entries stands further right than the enclosing one, and closed where a token
stands further left. Whether a scalar is a key is known only at its colon, so the place of each
possible key is kept and the opening tokens are put in there.
-/

namespace GroundLink.Yaml

/-- How a scalar is written. -/
inductive Style where
  | plain
  | quoted
  /-- In a block that keeps its line breaks. -/
  | literal
  /-- In a block that folds its lines. -/
  | folded
deriving DecidableEq, Repr

/-- A token. -/
inductive Token where
  | versionDirective (major minor : Nat)
  | tagDirective (handle : String) (start : Bytes)
  | documentStart
  | documentEnd
  | streamEnd
  | blockSequenceStart
  | blockMappingStart
  | blockEnd
  | flowSequenceStart
  | flowSequenceEnd
  | flowMappingStart
  | flowMappingEnd
  | blockEntry
  | flowEntry
  | key
  | value
  | anchor (name : String)
  | aliasOf (name : String)
  | tag (handle : String) (suffix : Bytes)
  | scalar (text : String) (style : Style)
deriving DecidableEq, Repr

/-- A place where a key may have started. -/
structure KeyMark where
  /-- The number of tokens before it. -/
  position : Nat
  /-- Whether a colon has to follow. -/
  required : Bool
  index : Nat
  line : Nat
  column : Nat

/-- The state of the scanner. -/
structure Scanner where
  cursor : Cursor
  tokens : Array Token
  /-- The column of the block collection at hand; −1 outside all. -/
  indent : Int
  /-- The columns of the enclosing block collections. -/
  outer : List Int
  /-- The possible key of each open flow collection, innermost first, and of the block level. -/
  keys : List (Option KeyMark)
  /-- Whether a key may start here. -/
  keyAllowed : Bool

namespace Scanner

/-- The start of a text. -/
def start (text : List Char) : Scanner :=
  ⟨.start text, #[], -1, [], [none], true⟩

/-- Whether the place is inside a flow collection. -/
def inFlow (s : Scanner) : Bool :=
  1 < s.keys.length

/-- Append a token. -/
def emit (s : Scanner) (token : Token) : Scanner :=
  { s with tokens := s.tokens.push token }

/-- Go on at another place. -/
def moveTo (s : Scanner) (cursor : Cursor) : Scanner :=
  { s with cursor := cursor }

/-- Put a token in before the one at a position. -/
def insertAt (s : Scanner) (position : Nat) (token : Token) : Scanner :=
  { s with tokens := s.tokens.insertIdxIfInBounds position token }

/-- Whether a possible key is still one: on the same line and at most 1024 bytes back. -/
def isFresh (s : Scanner) (mark : KeyMark) : Bool :=
  mark.line = s.cursor.line && s.cursor.index ≤ mark.index + 1024

/-- Forget the possible key at hand; one that is required cannot be forgotten. -/
def dropKey (s : Scanner) : Option Scanner :=
  match s.keys with
  | some mark :: rest => if mark.required then none else some { s with keys := none :: rest }
  | _ => some s

/-- Keep the place as a possible key. -/
def saveKey (s : Scanner) : Option Scanner :=
  if s.keyAllowed then do
    let s ← s.dropKey
    let mark : KeyMark :=
      ⟨s.tokens.size, !s.inFlow && s.indent = s.cursor.column, s.cursor.index, s.cursor.line,
        s.cursor.column⟩
    some { s with keys := some mark :: s.keys.drop 1 }
  else some s

/-- Close the block collections that stand further right than a column. -/
def closeTo (s : Scanner) (column : Int) : Scanner :=
  if s.inFlow then s
  else
    let closing := (s.indent :: s.outer).takeWhile (column < ·)
    match (s.indent :: s.outer).drop closing.length with
    | indent :: outer =>
      { s with
        indent := indent, outer := outer
        tokens := s.tokens ++ (closing.map fun _ => Token.blockEnd).toArray }
    | [] => s

/-- Open a block collection at a column, unless one is open there. -/
def openAt (s : Scanner) (column position : Nat) (token : Token) : Scanner :=
  if !s.inFlow && s.indent < column then
    insertAt { s with indent := column, outer := s.indent :: s.outer } position token
  else s

/-- Pass white space, comments and line breaks. -/
def skipGap (fuel : Nat) (s : Scanner) : Scanner :=
  match fuel with
  | 0 => s
  | fuel + 1 =>
    let c := s.cursor
    let c := if c.column = 0 && c.isAt '\ufeff' then c.skip else c
    let c := c.skipWhile fun x => x = ' ' || ((s.inFlow || !s.keyAllowed) && x = '\t')
    let c := if c.isAt '#' then c.skipLine else c
    if c.atBreak then
      skipGap fuel { s with cursor := c.skipBreak, keyAllowed := s.keyAllowed || !s.inFlow }
    else { s with cursor := c }

/-- Read a number of a version, at most nine digits long. -/
def readVersionNumber (c : Cursor) : Option (Nat × Cursor) :=
  let digits := c.rest.takeWhile Char.isDigit
  if digits = [] ∨ 9 < digits.length then none
  else some (digits.foldl (fun acc d => acc * 10 + (d.toNat - 48)) 0, c.skipMany digits.length)

/-- Read a tag handle: an exclamation mark, or a word between two of them. In a directive nothing
else is a handle; elsewhere the closing mark may be missing. -/
def readTagHandle (directive : Bool) (c : Cursor) : Option (String × Cursor) :=
  if !c.isAt '!' then none
  else
    let word := c.skip.rest.takeWhile isWordChar
    let next := c.skip.skipMany word.length
    if next.isAt '!' then some (String.ofList ('!' :: word ++ ['!']), next.skip)
    else if directive && word != [] then none
    else some (String.ofList ('!' :: word), next)

/-- Whether a character may stand in a tag. All that may are ASCII. -/
def isTagChar (brackets : Bool) (c : Char) : Bool :=
  isWordChar c || ";/?:@&=+$.!~*'()".toList.contains c || (brackets && ",[]".toList.contains c)

/-- Read one escaped byte of a tag. -/
def readEscapedByte (c : Cursor) : Option (UInt8 × Cursor) :=
  match c.rest with
  | '%' :: high :: low :: _ => do
    let h ← hexValue? high
    let l ← hexValue? low
    some (UInt8.ofNat (h * 16 + l), c.skipMany 3)
  | _ => none

/-- The number of bytes of a character that starts with a byte. -/
def leadWidth? (lead : UInt8) : Option Nat :=
  if lead < 0x80 then some 1
  else if lead &&& 0xE0 = 0xC0 then some 2
  else if lead &&& 0xF0 = 0xE0 then some 3
  else if lead &&& 0xF8 = 0xF0 then some 4
  else none

/-- Read `n` escaped bytes that continue a character. -/
def readTrail (c : Cursor) : Nat → Option (Bytes × Cursor)
  | 0 => some ([], c)
  | n + 1 => do
    let (byte, c) ← readEscapedByte c
    if byte &&& 0xC0 ≠ 0x80 then none
    else do
      let (rest, c) ← readTrail c n
      some (byte :: rest, c)

/-- Read the escaped bytes of one character of a tag. The first byte says how many follow; whether
they spell a character is not looked at. -/
def readTagEscape (c : Cursor) : Option (Bytes × Cursor) := do
  let (lead, c) ← readEscapedByte c
  let width ← leadWidth? lead
  let (trail, c) ← readTrail c (width - 1)
  some (lead :: trail, c)

/-- Read the characters of a tag, to go behind those in `acc`, the last of them first. -/
def readTagText (brackets : Bool) (fuel : Nat) (acc : Bytes) (c : Cursor) :
    Option (Bytes × Cursor) :=
  match fuel, c.peek with
  | 0, _ => some (acc.reverse, c)
  | _, none => some (acc.reverse, c)
  | fuel + 1, some x =>
    if x = '%' then
      match readTagEscape c with
      | some (bytes, next) => readTagText brackets fuel (bytes.reverse ++ acc) next
      | none => none
    else if isTagChar brackets x then
      readTagText brackets fuel (x.toNat.toUInt8 :: acc) c.skip
    else some (acc.reverse, c)

/-- Read a tag at its exclamation mark. -/
def readTag (flow : Bool) (c : Cursor) : Option (Token × Cursor) := do
  let (token, next) ←
    if c.peekAt 1 = some '<' then do
      let (text, next) ← readTagText true c.rest.length [] (c.skipMany 2)
      if text = [] ∨ !next.isAt '>' then none
      else some (Token.tag "" text, next.skip)
    else do
      let (handle, next) ← readTagHandle false c
      let (text, after) ← readTagText false c.rest.length [] next
      if 1 < handle.length ∧ handle.toList.getLast? = some '!' then
        if text = [] then none else some (Token.tag handle text, after)
      else
        let suffix := (utf8 handle).drop 1 ++ text
        if Tag.untilZero suffix = [] then some (Token.tag "" Tag.lone.bytes, after)
        else some (Token.tag "!" suffix, after)
  if next.isGapAt 0 || (flow && next.isAt ',') then some (token, next) else none

/-- Read a directive at its percent sign. -/
def readDirective (c : Cursor) : Option (Token × Cursor) := do
  let c := c.skip
  let name := c.rest.takeWhile isWordChar
  let c := c.skipMany name.length
  if !c.isGapAt 0 then none
  else do
    let (token, c) ←
      if name = ['Y', 'A', 'M', 'L'] then do
        let (major, c) ← readVersionNumber (c.skipWhile isBlank)
        if !c.isAt '.' then none
        else do
          let (minor, c) ← readVersionNumber c.skip
          some (Token.versionDirective major minor, c)
      else if name = ['T', 'A', 'G'] then do
        let (handle, c) ← readTagHandle true (c.skipWhile isBlank)
        if !c.atBlank then none
        else do
          let (text, c) ← readTagText true c.rest.length [] (c.skipWhile isBlank)
          if text = [] ∨ !c.isGapAt 0 then none
          else some (Token.tagDirective handle text, c)
      else none
    let c := c.skipWhile isBlank
    let c := if c.isAt '#' then c.skipLine else c
    if c.atEnd || c.atBreak then some (token, c.skipBreak) else none

/-- Read an anchor or an alias at its mark. -/
def readName (c : Cursor) : Option (String × Cursor) :=
  let word := c.skip.rest.takeWhile isWordChar
  let next := c.skip.skipMany word.length
  if word = [] then none
  else if next.isGapAt 0 || next.peek.any ("?:,]\x7d%@\x60".toList.contains ·) then
    some (String.ofList word, next)
  else none

/-- Whether a plain scalar starts at a character. -/
def startsPlain (s : Scanner) : Bool :=
  let c := s.cursor
  match c.peek with
  | none => false
  | some x =>
    !(c.isGapAt 0 || "-?:,[]\x7b\x7d#&*!|>'\"%@\x60".toList.contains x) ||
      (x = '-' && !(c.peekAt 1).any isBlank) || (!s.inFlow && (x = '?' || x = ':') && !c.isGapAt 1)

/-- The mark of an entry of a block sequence. -/
def fetchBlockEntry (s : Scanner) : Option Scanner := do
  let s ←
    if s.inFlow then some s
    else if s.keyAllowed then
      some (s.openAt s.cursor.column s.tokens.size .blockSequenceStart)
    else none
  let s ← s.dropKey
  some (({ s with keyAllowed := true }.moveTo s.cursor.skip).emit .blockEntry)

/-- The mark of a key. -/
def fetchKey (s : Scanner) : Option Scanner := do
  let s ←
    if s.inFlow then some s
    else if s.keyAllowed then
      some (s.openAt s.cursor.column s.tokens.size .blockMappingStart)
    else none
  let s ← s.dropKey
  some (({ s with keyAllowed := !s.inFlow }.moveTo s.cursor.skip).emit .key)

/-- The colon before a value: the possible key at hand becomes a key. -/
def fetchValue (s : Scanner) : Option Scanner := do
  let fresh := match s.keys with
    | some mark :: _ => if s.isFresh mark then some mark else none
    | _ => none
  let stale := match s.keys with
    | some mark :: _ => mark.required && !s.isFresh mark
    | _ => false
  if stale then none
  else do
    let s ← match fresh with
      | some mark =>
        let s := s.insertAt mark.position .key
        let s := s.openAt mark.column mark.position .blockMappingStart
        some { s with keys := none :: s.keys.drop 1, keyAllowed := false }
      | none =>
        let s := { s with keys := none :: s.keys.drop 1 }
        if s.inFlow then some { s with keyAllowed := false }
        else if s.keyAllowed then
          some (s.openAt s.cursor.column s.tokens.size .blockMappingStart)
        else none
    some ((s.moveTo s.cursor.skip).emit .value)

/-- A token that may be a key, already read up to a cursor. -/
def emitNode (s : Scanner) (token : Token) (next : Cursor) (keyAllowed : Bool) :
    Option Scanner := do
  let s ← s.saveKey
  some (({ s with keyAllowed := keyAllowed }.moveTo next).emit token)

/-- Forget possible keys that are no longer ones; one that is required cannot be forgotten. -/
def forgetStale (s : Scanner) : Option Scanner :=
  if s.keys.any fun key => key.any fun mark => mark.required && !s.isFresh mark then none
  else some { s with keys := s.keys.map fun key => key.filter s.isFresh }

/-- Read the next token, apart from the end of the text. The rest of the text is shorter than
`fuel`. -/
def fetch (fuel : Nat) (s : Scanner) (x : Char) : Option Scanner :=
  let c := s.cursor
  if c.column = 0 ∧ x = '%' then do
    let s ← (s.closeTo (-1)).dropKey
    let (token, next) ← readDirective c
    some (({ s with keyAllowed := false }.moveTo next).emit token)
  else if c.atDocumentMark then do
    let s ← (s.closeTo (-1)).dropKey
    some (({ s with keyAllowed := false }.moveTo (c.skipMany 3)).emit
      (if x = '-' then .documentStart else .documentEnd))
  else if x = '[' ∨ x = '\x7b' then do
    let s ← s.saveKey
    some (({ s with keyAllowed := true, keys := none :: s.keys }.moveTo c.skip).emit
      (if x = '[' then .flowSequenceStart else .flowMappingStart))
  else if x = ']' ∨ x = '\x7d' then do
    let s ← s.dropKey
    let keys := if s.inFlow then s.keys.drop 1 else s.keys
    some (({ s with keyAllowed := false, keys := keys }.moveTo c.skip).emit
      (if x = ']' then .flowSequenceEnd else .flowMappingEnd))
  else if x = ',' then do
    let s ← s.dropKey
    some (({ s with keyAllowed := true }.moveTo c.skip).emit .flowEntry)
  else if x = '-' ∧ c.isGapAt 1 then s.fetchBlockEntry
  else if x = '?' ∧ (s.inFlow ∨ c.isGapAt 1) then s.fetchKey
  else if x = ':' ∧ (s.inFlow ∨ c.isGapAt 1) then s.fetchValue
  else if x = '*' ∨ x = '&' then do
    let (name, next) ← readName c
    s.emitNode (if x = '*' then .aliasOf name else .anchor name) next false
  else if x = '!' then do
    let (token, next) ← readTag s.inFlow c
    s.emitNode token next false
  else if (x = '|' ∨ x = '>') ∧ !s.inFlow then do
    let s ← s.dropKey
    let (text, next) ← readBlock (x = '|') s.indent c.skip
    let style := if x = '|' then .literal else .folded
    some (({ s with keyAllowed := true }.moveTo next).emit (.scalar text style))
  else if x = '\'' ∨ x = '"' then do
    let (text, next) ← readQuoted (x = '\'') fuel [] c.skip
    s.emitNode (.scalar text .quoted) next false
  else if s.startsPlain then do
    let (text, broken, next) ← readPlain s.inFlow (s.indent + 1).toNat fuel [] .none c
    s.emitNode (.scalar text .plain) next broken
  else none

/-- Read tokens up to the end of the text, which is shorter than `fuel`. -/
def run (fuel : Nat) (s : Scanner) : Option (List Token) :=
  match fuel with
  | 0 => none
  | fuel + 1 => do
    let s := s.skipGap fuel.succ
    let s ← s.forgetStale
    let s := s.closeTo s.cursor.column
    match s.cursor.peek with
    | none =>
      let s ← (s.closeTo (-1)).dropKey
      some (s.emit .streamEnd).tokens.toList
    | some x =>
      let s ← s.fetch fuel.succ x
      run fuel s

end Scanner

/-- The tokens of a text, unless it breaks the format. -/
def tokens? (text : List Char) : Option (List Token) :=
  if text.all isAllowed then (Scanner.start text).run (text.length + 1) else none

end GroundLink.Yaml
