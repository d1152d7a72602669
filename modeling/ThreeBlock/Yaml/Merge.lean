-- The merge keys of maps. The value of a merge key is a map or a list of
-- maps, and their entries come in front of those of the map itself. A merge
-- is done once for all: afterwards the map has the entries, and no merge
-- key.
import ThreeBlock.Yaml.Node
import ThreeBlock.Yaml.Error
namespace ThreeBlock.Yaml

abbrev Merger := Graph → Nat → Except Error Graph

/-- The entries around the first merge key, and the node of its value. -/
def partAtMerge (g : Graph) : List (Nat × Nat) →
    Option (List (Nat × Nat) × Nat × List (Nat × Nat))
  | [] => none
  | e :: es =>
    if g.hasTag .merge e.1 then some ([], e.2, es)
    else (partAtMerge g es).map fun r => (e :: r.1, r.2)

/-- The entries of some maps, in front of those of the maps before: so the
first map counts most. -/
def entriesOfAll (merge : Merger) : List Nat → List (Nat × Nat) → Graph →
    Except Error (List (Nat × Nat) × Graph)
  | [], taken, g => .ok (taken, g)
  | id :: ids, taken, g =>
    match (g.node id).form with
    | .map _ => do
      let g ← merge g id
      entriesOfAll merge ids ((g.node id).entries ++ taken) g
    | _ => .error .badMerge

/-- The entries that the value of a merge key stands for. -/
def mergedEntries (merge : Merger) (g : Graph) (id : Nat) :
    Except Error (List (Nat × Nat) × Graph) :=
  match (g.node id).form with
  | .map _ => do
    let g ← merge g id
    return ((g.node id).entries, g)
  | .list items => entriesOfAll merge items [] g
  | .scalar _ => .error .badMerge

/-- A map with the entries that were taken in. A key that would stand for
the whole map is a text from here on. -/
def closeMap (g : Graph) (id : Nat) (taken : List (Nat × Nat)) : Graph :=
  let own := (g.node id).entries
  let g := own.foldl (fun g e => if g.hasTag .default e.1 then g.retag .text e.1 else g) g
  if taken.isEmpty then g else g.withEntries id (taken ++ own)

/-- The merge keys of a map are done one by one. The map has lost the key
before its value is looked at, so a map may take in itself. The number
bounds the keys. -/
def mergeKeys (merge : Merger) (id : Nat) :
    Nat → List (Nat × Nat) → Graph → Except Error Graph
  | 0, taken, g => .ok (closeMap g id taken)
  | n + 1, taken, g =>
    match partAtMerge g (g.node id).entries with
    | none => .ok (closeMap g id taken)
    | some (front, source, rest) => do
      let g := g.withEntries id (front ++ rest)
      let (more, g) ← mergedEntries merge g source
      mergeKeys merge id n (taken ++ more) g

/-- A map rid of its merge keys, with the maps that it takes in. The number
bounds how far maps take in each other. -/
def mergeWithin : Nat → Merger
  | 0, _, _ => .error (.aborted .mergedTooDeep)
  | n + 1, g, id => mergeKeys (mergeWithin n) id ((g.node id).entries.length + 1) [] g

end ThreeBlock.Yaml
