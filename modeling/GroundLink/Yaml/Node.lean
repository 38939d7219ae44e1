import GroundLink.Yaml.Draft

/-!
# The tree of a YAML text

In the tree of a document an alias is replaced by the node that it stands for: the last one whose
anchor has its number, wherever in the text that is. A node cannot stand inside itself, and what
aliases stand for may not outgrow the text too far. `Node.ofText?` reads a text with exactly one
document.
-/

namespace GroundLink.Yaml

/-- A node of a document, with the tag it was given. -/
inductive Node where
  /-- The document of a text without content. -/
  | absent
  | scalar (tag : Option Tag) (style : Style) (text : String)
  | sequence (tag : Option Tag) (items : List Node)
  /-- Entries in written order, equal keys included. -/
  | mapping (tag : Option Tag) (entries : List (Node × Node))
deriving Inhabited

namespace Draft

/-- The size of a node as it is written. A collection counts twice, for its start and its end. -/
def size : Draft → Nat
  | aliasOf _ => 1
  | scalar .. => 1
  | sequence _ _ items => 2 + itemSizes items
  | mapping _ _ entries => 2 + entrySizes entries
where
  /-- The size of the items of a sequence. -/
  itemSizes : List Draft → Nat
    | [] => 0
    | item :: rest => size item + itemSizes rest
  /-- The size of the entries of a mapping. -/
  entrySizes : List (Draft × Draft) → Nat
    | [] => 0
    | (key, value) :: rest => size key + size value + entrySizes rest

/-- A node under the number of its anchor, if it has one. -/
def entry (anchor : Option Nat) (draft : Draft) : List (Nat × Draft) :=
  anchor.toList.map fun number => (number, draft)

/-- The nodes with an anchor in a node, in the order of their starts, in front of others. -/
def anchored : Draft → List (Nat × Draft) → List (Nat × Draft)
  | aliasOf _, others => others
  | scalar anchor tag style text, others => entry anchor (scalar anchor tag style text) ++ others
  | sequence anchor tag items, others =>
    entry anchor (sequence anchor tag items) ++ itemsAnchored items others
  | mapping anchor tag entries, others =>
    entry anchor (mapping anchor tag entries) ++ entriesAnchored entries others
where
  /-- The nodes with an anchor in the items of a sequence. -/
  itemsAnchored : List Draft → List (Nat × Draft) → List (Nat × Draft)
    | [], others => others
    | item :: rest, others => anchored item (itemsAnchored rest others)
  /-- The nodes with an anchor in the entries of a mapping. -/
  entriesAnchored : List (Draft × Draft) → List (Nat × Draft) → List (Nat × Draft)
    | [], others => others
    | (key, value) :: rest, others =>
      anchored key (anchored value (entriesAnchored rest others))

/-- The node that each number stands for: the last one with that number. -/
def targets (root : Draft) : Array (Option Draft) :=
  let named := root.anchored []
  named.foldl (fun table (number, draft) => table.setIfInBounds number (some draft))
    (Array.replicate named.length none)

end Draft

/-- A node without aliases, and how often an alias was followed on the way to it. -/
abbrev Expansion := Node × Nat

namespace Draft

/-- The expansion of a node, where the expansions of the nodes are known that its aliases stand
for. -/
def expand (known : Array (Option Expansion)) : Draft → Option Expansion
  | aliasOf number => known[number]?.join.map fun (node, jumps) => (node, jumps + 1)
  | scalar _ tag style text => some (.scalar tag style text, 0)
  | sequence _ tag items =>
    (expandItems items).map fun (items, jumps) => (.sequence tag items, jumps)
  | mapping _ tag entries =>
    (expandEntries entries).map fun (entries, jumps) => (.mapping tag entries, jumps)
where
  /-- The expansion of the items of a sequence. -/
  expandItems : List Draft → Option (List Node × Nat)
    | [] => some ([], 0)
    | item :: rest => do
      let (item, here) ← expand known item
      let (rest, there) ← expandItems rest
      some (item :: rest, here + there)
  /-- The expansion of the entries of a mapping. -/
  expandEntries : List (Draft × Draft) → Option (List (Node × Node) × Nat)
    | [] => some ([], 0)
    | (key, value) :: rest => do
      let (key, atKey) ← expand known key
      let (value, atValue) ← expand known value
      let (rest, there) ← expandEntries rest
      some ((key, value) :: rest, atKey + atValue + there)

/-- One more round of expansions: of those nodes that are not expanded yet. -/
def expandRound (targets : Array (Option Draft)) (known : Array (Option Expansion)) :
    Array (Option Expansion) :=
  Array.zipWith (fun target expansion => expansion <|> target.bind (expand known)) targets known

/-- Expand in rounds until a round adds nothing. What is left then leads back to itself. -/
def expandRounds (targets : Array (Option Draft)) :
    Nat → Array (Option Expansion) → Array (Option Expansion)
  | 0, known => known
  | n + 1, known =>
    let next := expandRound targets known
    if next.countP Option.isSome = known.countP Option.isSome then known
    else expandRounds targets n next

/-- The tree of a document. Aliases may be followed at most a hundred times the size of the
text. -/
def toNode? (root : Draft) : Option Node := do
  let targets := root.targets
  let known := expandRounds targets targets.size (targets.map fun _ => none)
  let (node, jumps) ← expand known root
  if jumps ≤ 100 * root.size then some node else none

end Draft

/-- The document of a text, if it keeps to the format and holds only one. -/
def Node.ofText? (text : String) : Option Node := do
  match ← Draft.ofText? text with
  | none => some .absent
  | some root => root.toNode?

end GroundLink.Yaml
