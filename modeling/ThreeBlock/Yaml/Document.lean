-- The only document of a YAML text, as a graph with a root. A node in a
-- block and a node inside brackets have tokens of their own around them, and
-- a key or value may be left empty in front of some of them.
import ThreeBlock.Yaml.Feed
namespace ThreeBlock.Yaml

open Composing

/-! ## Nodes -/

/-- The tokens that a key or value in a block may be left empty in front of. -/
def entryEnds : List Token := [.key, .value, .blockEnd]

/-- A node that is never read: the bound on the steps was too low. -/
def outOfSteps {α : Type} : Composing α := throw (.unexpected "fewer steps")

/-- A new node with some properties, and with what `inside` finds in it. -/
def readForm (p : Properties) (tag : Tag) (inside : Composing Form) : Composing Nat := do
  checkAnchor p.anchor
  let id ← newNumber
  name p.anchor id
  let form ← nested inside
  finish id ⟨tag, form⟩
  return id

def readList (p : Properties) (items : Composing (List Nat)) : Composing Nat :=
  readForm p (p.collectionTag .list) (Form.list <$> items)

def readMap (p : Properties) (entries : Composing (List (Nat × Nat))) : Composing Nat :=
  readForm p (p.collectionTag .map) (Form.map <$> entries)

mutual

/-- The number of the node ahead. `inBlock` tells whether it stands in a
block, and `inMap` whether list items without an indent of their own may be
it. The number bounds the steps. -/
def readNode (inBlock inMap : Bool) : Nat → Composing Nat
  | 0 => outOfSteps
  | n + 1 => do
    match ← peek with
    | .reference anchor => do
      skip
      resolve anchor
    | _ => do
      let p ← Properties.read
      match ← peek with
      | .scalar plain text =>
        readForm p (p.scalarTag plain text) do
          skip
          return .scalar text
      | .flowListStart => readList p (skip *> readFlowItems true [] n)
      | .flowMapStart => readMap p (skip *> readFlowEntries true [] n)
      | t =>
        if inMap && t = .blockItem then readList p (readLooseItems [] n)
        else if inBlock && t = .blockListStart then readList p (skip *> readBlockItems [] n)
        else if inBlock && t = .blockMapStart then readMap p (skip *> readBlockEntries [] n)
        else if p.isNone then throw (.unexpected "the node content")
        else readForm p (p.scalarTag true []) (return .scalar [])

def readOr (ends : List Token) (inBlock inMap : Bool) : Nat → Composing Nat
  | 0 => outOfSteps
  | n + 1 => do
    if ← isAt ends then leaveEmpty else readNode inBlock inMap n

/-- The node behind the mark of a value, or an empty one without the mark. -/
def readValue (ends : List Token) (inBlock : Bool) : Nat → Composing Nat
  | 0 => outOfSteps
  | n + 1 => do
    if ← isAt [.value] then
      skip
      readOr ends inBlock inBlock n
    else leaveEmpty

/-- The items of a list in a block, those read so far last first. -/
def readBlockItems (items : List Nat) : Nat → Composing (List Nat)
  | 0 => outOfSteps
  | n + 1 => do
    if ← isAt [.blockItem] then
      skip
      let item ← readOr [.blockItem, .blockEnd] true false n
      readBlockItems (item :: items) n
    else
      expect .blockEnd "<block end>"
      return items.reverse

/-- The items of a list that has no indent of its own. -/
def readLooseItems (items : List Nat) : Nat → Composing (List Nat)
  | 0 => outOfSteps
  | n + 1 => do
    if ← isAt [.blockItem] then
      skip
      let item ← readOr (.blockItem :: entryEnds) true false n
      readLooseItems (item :: items) n
    else return items.reverse

def readBlockEntries (entries : List (Nat × Nat)) : Nat → Composing (List (Nat × Nat))
  | 0 => outOfSteps
  | n + 1 => do
    if ← isAt [.key] then
      skip
      let key ← readOr entryEnds true true n
      let value ← readValue entryEnds true n
      readBlockEntries ((key, value) :: entries) n
    else
      expect .blockEnd "<block end>"
      return entries.reverse

/-- The items of a list in brackets. `first` tells whether none was read. -/
def readFlowItems (first : Bool) (items : List Nat) : Nat → Composing (List Nat)
  | 0 => outOfSteps
  | n + 1 => do
    if ← isAt [.flowListEnd] then
      skip
      return items.reverse
    else
      if !first then expect .flowItem "',' or ']'"
      match ← peek with
      | .flowListEnd => do
        skip
        return items.reverse
      | .key => do
        let item ← readMap {} (skip *> readEntry n)
        readFlowItems false (item :: items) n
      | _ => do
        let item ← readNode false false n
        readFlowItems false (item :: items) n

/-- The only entry of a map that is an item of a list in brackets, behind
its key mark. -/
def readEntry : Nat → Composing (List (Nat × Nat))
  | 0 => outOfSteps
  | n + 1 => do
    let ends := [.flowItem, .flowListEnd]
    let key ← readOr (.value :: ends) false false n
    let value ← readValue ends false n
    return [(key, value)]

/-- The entries of a map in braces. `first` tells whether none was read. -/
def readFlowEntries (first : Bool) (entries : List (Nat × Nat)) :
    Nat → Composing (List (Nat × Nat))
  | 0 => outOfSteps
  | n + 1 => do
    if ← isAt [.flowMapEnd] then
      skip
      return entries.reverse
    else
      if !first then expect .flowItem "',' or '\x7d'"
      match ← peek with
      | .flowMapEnd => do
        skip
        return entries.reverse
      | .key => do
        skip
        let ends := [.flowItem, .flowMapEnd]
        let key ← readOr (.value :: ends) false false n
        let value ← readValue ends false n
        readFlowEntries false ((key, value) :: entries) n
      | _ => do
        let key ← readNode false false n
        let value ← leaveEmpty
        readFlowEntries false ((key, value) :: entries) n

end

/-! ## Documents -/

def usualHandles : List (String × String) := [("!", "!"), ("!!", standardTag)]

/-- The handles that the directives ahead declare. `versioned` tells whether
a version was given. -/
def readDirectives (versioned : Bool) (declared : List (String × String)) :
    Nat → Composing (List (String × String))
  | 0 => outOfSteps
  | n + 1 => do
    match ← peek with
    | .directive d => do
      skip
      match d with
      | .version major =>
        if versioned || major ≠ 1 then throw .badDirective else readDirectives true declared n
      | .handle handle stands =>
        if (declared.lookup handle).isSome then throw .badDirective
        else readDirectives versioned ((handle, stands) :: declared) n
      | .other => readDirectives versioned declared n
    | _ => return declared

def readOpening (n : Nat) : Composing Unit := do
  let declared ← readDirectives false [] n
  let known := usualHandles.filter fun h => (declared.lookup h.1).isNone
  modify fun f => { f with handles := declared ++ known }
  expect .documentStart "'<document start>'"

/-- The root of a document with a start mark. Nothing at all is an empty
node. -/
def readContent (n : Nat) : Composing Nat := do
  match ← peek with
  | .directive _ | .documentStart | .documentEnd | .streamEnd => leaveEmpty
  | _ => readNode true false n

/-- The root of the document ahead; none at the end of the text. -/
def readRoot (n : Nat) : Composing (Option Nat) := do
  match ← peek with
  | .streamEnd => return none
  | .directive _ | .documentStart => do
    readOpening n
    return some (← readContent n)
  | _ => do
    modify fun f => { f with handles := usualHandles }
    return some (← readNode true false n)

def skipEnds : Nat → Composing Unit
  | 0 => outOfSteps
  | n + 1 => do
    if ← isAt [.documentEnd] then
      skip
      skipEnds n

/-- The root of the only document, if there is one. -/
def readOnly (n : Nat) : Composing (Option Nat) := do
  let root ← readRoot n
  skipEnds n
  if ← isAt [.streamEnd] then return root
  else
    readOpening n
    throw .secondDocument

def stepBound (ts : List Token) : Nat := 4 * ts.length + 8

/-- The root and the graph of the only document, if there is one, with at most
`deepest` nodes open at a time. -/
def Graph.ofTokens (deepest : Nat) (ts : Tokens) : Except Error (Option (Nat × Graph)) := do
  let (root, f) ← (readOnly (stepBound ts.ahead)).run
    { tokens := ts.ahead, trouble := ts.trouble, deepest }
  return root.map fun id => (id, Graph.ofNodes f.count f.nodes)

end ThreeBlock.Yaml
