import GroundLink.Bytes

/-!
# Tags of a YAML text

A tag says what sort of value a node is. Its name is kept as bytes, since escapes in a tag need not
spell characters. A zero byte ends each part of a name.
-/

namespace GroundLink.Yaml

/-- A tag, by the bytes of its name. -/
structure Tag where
  bytes : Bytes
deriving DecidableEq, Repr

namespace Tag

/-- The part of a name in front of its first zero byte. -/
def untilZero (bytes : Bytes) : Bytes :=
  bytes.takeWhile (· != 0)

/-- The tag of two parts: what a handle stands for, and what follows it. -/
def ofParts (start suffix : Bytes) : Tag :=
  ⟨untilZero start ++ untilZero suffix⟩

/-- The tag with a name. -/
def ofName (name : String) : Tag :=
  ⟨utf8 name⟩

/-- The tag of a lone exclamation mark. -/
def lone : Tag := ofName "!"

/-- A tag of the core set. -/
def core (name : String) : Tag :=
  ofName ("tag:yaml.org,2002:" ++ name)

/-- Whether the name starts with an exclamation mark. -/
def isMarked (tag : Tag) : Bool :=
  (utf8 "!").isPrefixOf tag.bytes

/-- The word of a private tag: the text behind the exclamation mark, or the mark if there is none.
A tag whose bytes spell no text is not private. -/
def word? (tag : Tag) : Option String :=
  if tag = lone then some "!"
  else if tag.isMarked then ofUtf8? (tag.bytes.drop 1)
  else none

end Tag

end GroundLink.Yaml
