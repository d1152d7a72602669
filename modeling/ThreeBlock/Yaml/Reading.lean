-- The value of a YAML text. A node is turned into a part when it is first
-- met; a list, set or map is empty then, and what is in it follows when all
-- that was met before is done. So of several nodes that are wrong the one
-- that is reached first decides.
import ThreeBlock.Limits
import ThreeBlock.Yaml.Document
import ThreeBlock.Yaml.Merge
import ThreeBlock.Yaml.Part
import ThreeBlock.Yaml.Scalar
import ThreeBlock.Yaml.Source
namespace ThreeBlock.Yaml

/-! ## The state of the building -/

/-- What was built so far. -/
structure Building where
  limits : Limits
  graph : Graph
  parts : Array (Option Part)
  wholes : Wholes
  /-- The nodes of wholes that are still empty, the last one first. -/
  waiting : List Nat := []

abbrev Build (α : Type) := StateT Building (Except Error) α

namespace Build

def node (id : Nat) : Build Node := return (← get).graph.node id

def fill (id : Nat) (w : Whole) : Build Unit :=
  modify fun b => { b with wholes := b.wholes.setIfInBounds id w }

def keep (id : Nat) (p : Part) : Build Unit :=
  modify fun b => { b with parts := b.parts.setIfInBounds id (some p) }

/-! ## Nodes -/

/-- The text of a node. A map stands for its default entry, if it has one.
The number bounds how often. -/
def textOf (g : Graph) : Nat → Nat → Except Error Text.Points
  | 0, _ => .error (.aborted .nestedTooDeep)
  | n + 1, id =>
    match (g.node id).form with
    | .scalar text => .ok text
    | .list _ => .error .misfit
    | .map entries =>
      match entries.find? fun e => g.hasTag .default e.1 with
      | some e => textOf g n e.2
      | none => .error .misfit

/-- The source of what is no number: the word for it has one in common. -/
def nanSource (text : Text.Points) (id : Nat) : Nat := if isNanWord text then 0 else id + 1

def scalarPart (limits : Limits) (g : Graph) (id : Nat) : Except Error Part := do
  let n := g.node id
  match n.tag with
  | .other name => throw (.unknownTag name)
  | .merge | .default => throw (.unknownTag standardTag)
  | tag =>
    let text ← textOf g limits.merging id
    if tag = .stamp && n.text?.isNone then throw (.aborted .momentOfMap)
    match ← scalarValue tag text with
    | .float x => return if x.isNaN then .nan (nanSource text id) else .plain (.float x)
    | v => return .plain v

/-- The empty whole of a tag, if it is the tag of one. -/
def emptyWhole? : Tag → Option Whole
  | .list | .pairs => some (.list [])
  | .set => some (.set [])
  | .map => some (.map [])
  | _ => none

def part (id : Nat) : Build Part := do
  match (← get).parts.getD id none with
  | some p => return p
  | none =>
    match emptyWhole? (← node id).tag with
    | some w => do
      fill id w
      keep id (.whole id)
      modify fun b => { b with waiting := id :: b.waiting }
      return .whole id
    | none => do
      let p ← scalarPart (← get).limits (← get).graph id
      keep id p
      return p

/-! ## Wholes -/

def pairPart (id : Nat) : Build Part := do
  match (← node id).form with
  | .map [(k, v)] => do
    let key ← part k
    let value ← part v
    return .pair key value
  | _ => throw .misfit

def entryParts : List (Nat × Nat) → List (Part × Part) → Build (List (Part × Part))
  | [], acc => return acc
  | (k, v) :: es, acc => do
    let key ← part k
    if !key.isKey then throw .compositeKey
    let value ← part v
    entryParts es (Part.putEntry key value acc)

def mapParts (id : Nat) : Build (List (Part × Part)) := do
  match (← node id).form with
  | .map _ => do
    let g ← mergeWithin (← get).limits.merging (← get).graph id
    modify fun b => { b with graph := g }
    entryParts (g.node id).entries []
  | _ => throw .misfit

def complete (id : Nat) : Build Unit := do
  let n ← node id
  match n.tag, n.form with
  | .list, .list items => fill id (.list (← items.mapM part))
  | .pairs, .list items => fill id (.list (← items.mapM pairPart))
  | .set, _ => fill id (.set ((← mapParts id).map (·.1)))
  | .map, _ => fill id (.map (← mapParts id))
  | _, _ => throw .misfit

/-- All wholes are completed, in the order in which they were met. The
number bounds the steps. -/
def completeAll : Nat → List Nat → Build Unit
  | 0, _ => return
  | n + 1, id :: ids => do
    complete id
    completeAll n ids
  | n + 1, [] => do
    match (← get).waiting with
    | [] => return
    | ids => do
      modify fun b => { b with waiting := [] }
      completeAll n ids.reverse

def root (id steps : Nat) : Build Part := do
  let p ← part id
  completeAll steps []
  return p

end Build

/-! ## The whole text -/

/-- The value of a text: a part, and the wholes that it refers to. -/
structure Content where
  root : Part
  wholes : Wholes

def Content.null : Content := ⟨.plain .null, #[]⟩

def read (limits : Limits) (source : Source) : Except Error Content := do
  match ← Graph.ofTokens limits.reading (Tokens.ofText source.text source.wall) with
  | none => return .null
  | some (id, graph) =>
    let count := graph.nodes.size
    let (root, b) ← (Build.root id (2 * count + 2)).run
      { limits, graph, parts := Array.replicate count none,
        wholes := Array.replicate count default }
    return ⟨root, b.wholes⟩

end ThreeBlock.Yaml
