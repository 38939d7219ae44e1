/-!
# Reading positions of a YAML text

A cursor is the text still to be read and where it starts. Lines end at any of the line breaks of
the format, and a carriage return and a line feed together are one break. Places in a text are
counted in bytes, columns in characters.
-/

namespace GroundLink.Yaml

/-- A place in a text. -/
structure Cursor where
  rest : List Char
  /-- The length in UTF-8 of the text before the place. -/
  index : Nat
  line : Nat
  column : Nat

/-- Whether a character ends a line. -/
def isBreak (c : Char) : Bool :=
  c = '\n' || c = '\r' || c = '\u0085' || c = '\u2028' || c = '\u2029'

/-- Whether a character is a blank of a line. -/
def isBlank (c : Char) : Bool :=
  c = ' ' || c = '\t'

/-- Whether a character may stand in names of anchors, tags and directives. -/
def isWordChar (c : Char) : Bool :=
  c.isAlphanum || c = '_' || c = '-'

/-- Whether a document may hold the character unescaped. -/
def isAllowed (c : Char) : Bool :=
  let code := c.toNat
  code = 0x9 || code = 0xA || code = 0xD || (0x20 ≤ code && code ≤ 0x7E) || code = 0x85 ||
    (0xA0 ≤ code && code ≤ 0xD7FF) || (0xE000 ≤ code && code ≤ 0xFFFD) || 0x10000 ≤ code

namespace Cursor

/-- The start of a text. -/
def start (text : List Char) : Cursor :=
  ⟨text, 0, 0, 0⟩

/-- The next character. -/
def peek (c : Cursor) : Option Char :=
  c.rest.head?

/-- The character `n` places ahead. -/
def peekAt (c : Cursor) (n : Nat) : Option Char :=
  c.rest[n]?

/-- Whether the next character is a given one. -/
def isAt (c : Cursor) (expected : Char) : Bool :=
  c.peek == some expected

/-- Whether the text ends here. -/
def atEnd (c : Cursor) : Bool :=
  c.rest.isEmpty

/-- Whether a line break comes next. -/
def atBreak (c : Cursor) : Bool :=
  c.peek.any isBreak

/-- Whether a blank comes next. -/
def atBlank (c : Cursor) : Bool :=
  c.peek.any isBlank

/-- Whether a blank, a line break or the end of the text stands `n` places ahead. -/
def isGapAt (c : Cursor) (n : Nat) : Bool :=
  match c.peekAt n with
  | none => true
  | some x => isBlank x || isBreak x

/-- The length of characters in UTF-8. -/
def width (text : List Char) : Nat :=
  text.foldl (fun total x => total + x.utf8Size) 0

/-- Past `n` characters of a line. -/
def skipMany (c : Cursor) (n : Nat) : Cursor :=
  ⟨c.rest.drop n, c.index + width (c.rest.take n), c.line, c.column + n⟩

/-- Past one character. -/
def skip (c : Cursor) : Cursor :=
  c.skipMany 1

/-- Past a line break. -/
def skipBreak (c : Cursor) : Cursor :=
  match c.rest with
  | '\r' :: '\n' :: rest => ⟨rest, c.index + 2, c.line + 1, 0⟩
  | x :: rest => ⟨rest, c.index + x.utf8Size, c.line + 1, 0⟩
  | [] => c

/-- The line break that comes next, as it is kept in a text: line and paragraph separators stay,
all others become line feeds. -/
def breakText (c : Cursor) : List Char :=
  match c.peek with
  | some '\u2028' => ['\u2028']
  | some '\u2029' => ['\u2029']
  | some _ => ['\n']
  | none => []

/-- Past the characters of a line that satisfy a test. -/
def skipWhile (c : Cursor) (test : Char → Bool) : Cursor :=
  c.skipMany (c.rest.takeWhile test).length

/-- Past the rest of the line. -/
def skipLine (c : Cursor) : Cursor :=
  c.skipWhile (!isBreak ·)

/-- Whether one of the two document marks stands alone at the start of a line. -/
def atDocumentMark (c : Cursor) : Bool :=
  let isMark := ['-', '-', '-'].isPrefixOf c.rest || ['.', '.', '.'].isPrefixOf c.rest
  c.column = 0 && c.isGapAt 3 && isMark

end Cursor

end GroundLink.Yaml
