-- The reading of a document from its tokens: what is still ahead, and the
-- nodes found so far. A node has its number, and its anchor if it has one,
-- before what is in it is read; so an alias may refer to a node that is
-- still open.
import ThreeBlock.Yaml.Layout
import ThreeBlock.Yaml.Node
namespace ThreeBlock.Yaml

/-! ## The state of the reading -/

/-- What is left to read, and what was found on the way. -/
structure Feed where
  tokens : List Token
  /-- The error behind the last of them, if there is one. -/
  trouble : Option Error := none
  handles : List (String × String) := []
  anchors : List (String × Nat) := []
  count : Nat := 0
  nodes : List (Nat × Node) := []
  depth : Nat := 0
  deepest : Nat

abbrev Composing (α : Type) := StateT Feed (Except Error) α

namespace Composing

/-! ## Tokens -/

def peek : Composing Token := do
  match (← get).tokens, (← get).trouble with
  | t :: _, _ => return t
  | [], some e => throw e
  | [], none => return .streamEnd

def skip : Composing Unit := modify fun f => { f with tokens := f.tokens.tail }

def isAt (ts : List Token) : Composing Bool := return ts.contains (← peek)

def expect (t : Token) (what : String) : Composing Unit := do
  if (← peek) = t then skip else throw (.unexpected what)

/-! ## Numbers and names -/

def newNumber : Composing Nat :=
  modifyGet fun f => (f.count, { f with count := f.count + 1 })

def finish (id : Nat) (n : Node) : Composing Unit :=
  modify fun f => { f with nodes := (id, n) :: f.nodes }

def leaveEmpty : Composing Nat := do
  let id ← newNumber
  finish id Node.empty
  return id

def checkAnchor (anchor : Option String) : Composing Unit := do
  match anchor with
  | none => return
  | some a => if ((← get).anchors.lookup a).isSome then throw (.repeatedAnchor a)

def name (anchor : Option String) (id : Nat) : Composing Unit :=
  match anchor with
  | none => return
  | some a => modify fun f => { f with anchors := (a, id) :: f.anchors }

def resolve (anchor : String) : Composing Nat := do
  match (← get).anchors.lookup anchor with
  | some id => return id
  | none => throw (.unknownAlias anchor)

/-! ## Depth -/

def nested {α : Type} (inner : Composing α) : Composing α := do
  if (← get).deepest ≤ (← get).depth then throw (.aborted .nestedTooDeep)
  modify fun f => { f with depth := f.depth + 1 }
  let a ← inner
  modify fun f => { f with depth := f.depth - 1 }
  return a

/-! ## Properties -/

def tagName (handle : Option String) (suffix : String) : Composing String := do
  match handle with
  | none => return suffix
  | some h =>
    match (← get).handles.lookup h with
    | some s => return s ++ suffix
    | none => throw (.unknownHandle h)

end Composing

/-- What stands in front of a node. -/
structure Properties where
  anchor : Option String := none
  tag : Option String := none

namespace Properties

def isNone (p : Properties) : Bool := p.anchor.isNone && p.tag.isNone

def isOpen (p : Properties) : Bool := p.tag.isNone || p.tag = some "!"

def collectionTag (p : Properties) (usual : Tag) : Tag :=
  if p.isOpen then usual else (p.tag.map Tag.ofName).getD usual

def scalarTag (p : Properties) (plain : Bool) (text : Text.Points) : Tag :=
  match p.tag with
  | none => if plain then Tag.ofPlain text else .text
  | some t => if t = "!" then Tag.asPlain text else Tag.ofName t

/-- The properties ahead: at most one anchor and one tag, in any order. -/
def read : Composing Properties := do
  match ← Composing.peek with
  | .anchor a => do
    Composing.skip
    match ← Composing.peek with
    | .tag h s => do
      Composing.skip
      return ⟨some a, some (← Composing.tagName h s)⟩
    | _ => return ⟨some a, none⟩
  | .tag h s => do
    Composing.skip
    match ← Composing.peek with
    | .anchor a => do
      Composing.skip
      return ⟨some a, some (← Composing.tagName h s)⟩
    | _ => return ⟨none, some (← Composing.tagName h s)⟩
  | _ => return {}

end Properties

end ThreeBlock.Yaml
