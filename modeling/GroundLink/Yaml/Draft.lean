import GroundLink.Yaml.Token

/-!
# The tree of a YAML text as it is written

A text that keeps to the format holds one document: a tree of scalars, sequences and mappings. A
node may be named by an anchor. Anchors are numbered, and an alias has the number that its name
stands for where it is written. `Draft.ofText?` reads a text with exactly one document.
-/

namespace GroundLink.Yaml

/-- A node as it is written, with the number of its anchor and its tag. -/
inductive Draft where
  | aliasOf (number : Nat)
  | scalar (anchor : Option Nat) (tag : Option Tag) (style : Style) (text : String)
  | sequence (anchor : Option Nat) (tag : Option Tag) (items : List Draft)
  /-- Entries in written order, equal keys included. -/
  | mapping (anchor : Option Nat) (tag : Option Tag) (entries : List (Draft × Draft))
deriving Inhabited

/-- A node that was left out. -/
def Draft.empty : Draft := .scalar none none .plain ""

/-- The state of a tree builder. -/
structure Builder where
  /-- Tokens to be read. -/
  rest : List Token
  /-- What tag handles stand for. -/
  handles : List (String × Bytes)
  /-- The numbers of anchors by name. -/
  anchors : List (String × Nat)

/-- A step of a tree builder; a text that breaks the format stops it. -/
abbrev Build := StateT Builder Option

namespace Build

/-- The next token. -/
def peek : Build Token := do
  let s ← get
  pure (s.rest.head?.getD .streamEnd)

/-- Pass one token. -/
def skip : Build Unit :=
  modify fun s => { s with rest := s.rest.drop 1 }

/-- Pass a given token. -/
def expect (token : Token) : Build Unit := do
  if (← peek) = token then skip else failure

/-- Pass a given token if it comes next, and say whether it did. -/
def accept (token : Token) : Build Bool := do
  if (← peek) = token then
    skip
    pure true
  else pure false

/-- The tag of a handle and a suffix. -/
def tagOf (handle : String) (suffix : Bytes) : Build Tag := do
  if handle = "" then pure (.ofParts [] suffix)
  else
    match (← get).handles.lookup handle with
    | some start => pure (.ofParts start suffix)
    | none => failure

/-- Read a tag if one comes next. -/
def tag? : Build (Option Tag) := do
  match ← peek with
  | .tag handle suffix =>
    skip
    let tag ← tagOf handle suffix
    pure (some tag)
  | _ => pure none

/-- Number an anchor: by the names known so far, whether or not its own is one of them. So two
anchors may have one number. -/
def number (name : String) : Build Nat := do
  let known := (← get).anchors
  modify fun s => { s with anchors := (name, known.length) :: known.filter (·.1 != name) }
  pure known.length

/-- Read an anchor if one comes next. -/
def anchor? : Build (Option Nat) := do
  match ← peek with
  | .anchor name =>
    skip
    let anchor ← number name
    pure (some anchor)
  | _ => pure none

/-- Read an anchor and a tag, in either order and each at most once. -/
def properties : Build (Option Nat × Option Tag) := do
  match ← anchor? with
  | some anchor =>
    let tag ← tag?
    pure (some anchor, tag)
  | none =>
    let tag ← tag?
    let anchor ← if tag.isSome then anchor? else pure none
    pure (anchor, tag)

/-- Where a node stands: this decides which notations it may have. -/
inductive Place where
  /-- Inside a flow collection. -/
  | flow
  /-- A document, or an entry of a block sequence. -/
  | block
  /-- A key or value of a block mapping, where a sequence need not be indented. -/
  | entry
deriving DecidableEq

/-- Whether a token can only follow a node. -/
def endsEntry (token : Token) : Bool :=
  token = .key || token = .value || token = .blockEnd

mutual

/-- Read a node. -/
def node (fuel : Nat) (place : Place) : Build Draft :=
  match fuel with
  | 0 => failure
  | fuel + 1 => do
    match ← peek with
    | .aliasOf name =>
      skip
      match (← get).anchors.lookup name with
      | some anchor => pure (.aliasOf anchor)
      | none => failure
    | _ =>
      let (anchor, tag) ← properties
      content fuel place anchor tag

/-- Read the content of a node; with properties it may be left out. -/
def content (fuel : Nat) (place : Place) (anchor : Option Nat) (tag : Option Tag) :
    Build Draft :=
  match fuel with
  | 0 => failure
  | fuel + 1 => do
    match ← peek with
    | .scalar text style =>
      skip
      pure (.scalar anchor tag style text)
    | .flowSequenceStart =>
      skip
      let items ← flowItems fuel true
      pure (.sequence anchor tag items)
    | .flowMappingStart =>
      skip
      let entries ← flowEntries fuel true
      pure (.mapping anchor tag entries)
    | token =>
      if token = .blockEntry ∧ place = .entry then
        let items ← bareItems fuel
        pure (.sequence anchor tag items)
      else if token = .blockSequenceStart ∧ place ≠ .flow then
        skip
        let items ← blockItems fuel
        pure (.sequence anchor tag items)
      else if token = .blockMappingStart ∧ place ≠ .flow then
        skip
        let entries ← blockEntries fuel
        pure (.mapping anchor tag entries)
      else if anchor.isSome || tag.isSome then pure (.scalar anchor tag .plain "")
      else failure

/-- Read a node unless a token comes next that ends it. -/
def nodeUnless (fuel : Nat) (place : Place) (ends : Token → Bool) : Build Draft :=
  match fuel with
  | 0 => failure
  | fuel + 1 => do
    if ends (← peek) then pure .empty else node fuel place

/-- Read the entries of a block sequence. -/
def blockItems (fuel : Nat) : Build (List Draft) :=
  match fuel with
  | 0 => failure
  | fuel + 1 => do
    if ← accept .blockEntry then
      let item ← nodeUnless fuel .block fun t => t = .blockEntry || t = .blockEnd
      let rest ← blockItems fuel
      pure (item :: rest)
    else
      expect .blockEnd
      pure []

/-- Read the entries of a sequence that is not indented. -/
def bareItems (fuel : Nat) : Build (List Draft) :=
  match fuel with
  | 0 => failure
  | fuel + 1 => do
    if ← accept .blockEntry then
      let item ← nodeUnless fuel .block fun t => t = .blockEntry || endsEntry t
      let rest ← bareItems fuel
      pure (item :: rest)
    else pure []

/-- Read the entries of a block mapping. -/
def blockEntries (fuel : Nat) : Build (List (Draft × Draft)) :=
  match fuel with
  | 0 => failure
  | fuel + 1 => do
    if ← accept .key then
      let key ← nodeUnless fuel .entry endsEntry
      let value ← valueNode fuel .entry endsEntry
      let rest ← blockEntries fuel
      pure ((key, value) :: rest)
    else
      expect .blockEnd
      pure []

/-- Read a colon and what follows it, if there is a colon. -/
def valueNode (fuel : Nat) (place : Place) (ends : Token → Bool) : Build Draft :=
  match fuel with
  | 0 => failure
  | fuel + 1 => do
    if ← accept .value then nodeUnless fuel place ends else pure .empty

/-- Read the items of a flow sequence; behind the first, a comma is due. -/
def flowItems (fuel : Nat) (first : Bool) : Build (List Draft) :=
  match fuel with
  | 0 => failure
  | fuel + 1 => do
    if ← accept .flowSequenceEnd then pure []
    else
      if !first then expect .flowEntry
      if ← accept .flowSequenceEnd then pure []
      else
        let item ← if ← accept .key then pairItem fuel else node fuel .flow
        let rest ← flowItems fuel false
        pure (item :: rest)

/-- Read the mapping of one entry that stands as an item of a flow sequence. A token in place of
its key is passed with it. -/
def pairItem (fuel : Nat) : Build Draft :=
  match fuel with
  | 0 => failure
  | fuel + 1 => do
    let token ← peek
    let key ←
      if token = .value ∨ token = .flowEntry ∨ token = .flowSequenceEnd then
        skip
        pure .empty
      else node fuel .flow
    let value ← valueNode fuel .flow fun t => t = .flowEntry || t = .flowSequenceEnd
    pure (.mapping none none [(key, value)])

/-- Read the entries of a flow mapping; behind the first, a comma is due. -/
def flowEntries (fuel : Nat) (first : Bool) : Build (List (Draft × Draft)) :=
  match fuel with
  | 0 => failure
  | fuel + 1 => do
    if ← accept .flowMappingEnd then pure []
    else
      if !first then expect .flowEntry
      if ← accept .flowMappingEnd then pure []
      else
        let ends (t : Token) : Bool := t = .flowEntry || t = .flowMappingEnd
        let entry ←
          if ← accept .key then
            let key ← nodeUnless fuel .flow fun t => t = .value || ends t
            let value ← valueNode fuel .flow ends
            pure (key, value)
          else
            let key ← node fuel .flow
            pure (key, .empty)
        let rest ← flowEntries fuel false
        pure (entry :: rest)

end

/-- Read the directives before a document: at most one version, and each handle once. -/
def directives (fuel : Nat) (versioned : Bool) : Build Unit :=
  match fuel with
  | 0 => failure
  | fuel + 1 => do
    match ← peek with
    | .versionDirective major minor =>
      if versioned ∨ major ≠ 1 ∨ (minor ≠ 1 ∧ minor ≠ 2) then failure
      else
        skip
        directives fuel true
    | .tagDirective handle start =>
      if ((← get).handles.lookup handle).isSome then failure
      else
        skip
        modify fun s => { s with handles := (handle, start) :: s.handles }
        directives fuel versioned
    | _ => pure ()

/-- Take the usual meaning of handles that no directive gave one. -/
def usualHandles : Build Unit :=
  modify fun s =>
    { s with handles := s.handles ++ [("!", utf8 "!"), ("!!", (Tag.core "").bytes)] }

/-- Whether a token opens or ends a document. -/
def boundsDocument : Token → Bool
  | .versionDirective .. | .tagDirective .. | .documentStart | .documentEnd | .streamEnd => true
  | _ => false

/-- Pass the marks of the end of a document. -/
def skipEnds (fuel : Nat) : Build Unit :=
  match fuel with
  | 0 => failure
  | fuel + 1 => do
    if ← accept .documentEnd then skipEnds fuel else pure ()

/-- Read the only document of a text, if there is any content. -/
def document (fuel : Nat) : Build (Option Draft) := do
  match ← peek with
  | .streamEnd => pure none
  | token =>
    let root ←
      if boundsDocument token ∧ token ≠ .documentEnd then
        directives fuel false
        usualHandles
        expect .documentStart
        nodeUnless fuel .block boundsDocument
      else
        usualHandles
        node fuel .block
    skipEnds fuel
    expect .streamEnd
    pure (some root)

end Build

/-- The document of a text, if it keeps to the format and holds only one; a text without content
holds an absent one. -/
def Draft.ofText? (text : String) : Option (Option Draft) := do
  let tokens ← tokens? text.toList
  let (root, _) ← (Build.document (4 * tokens.length + 8)).run ⟨tokens, [], []⟩
  some root

end GroundLink.Yaml
