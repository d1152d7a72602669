-- The parts of the value of a document. A list, a set or a map is built
-- once, and all places where it stands share it; so it may contain itself.
-- When such a part is spelled out, a place inside itself is cut short.
import ThreeBlock.Value.Scatter
import ThreeBlock.Yaml.Node
namespace ThreeBlock.Yaml

/-! ## Parts -/

/-- What a node stands for. -/
inductive Part where
  | plain (v : Value)
  | nan (source : Nat)
  | pair (first second : Part)
  | whole (id : Nat)

/-- A list, set or map. -/
inductive Whole where
  | list (items : List Part)
  | set (items : List Part)
  | map (entries : List (Part × Part))

instance : Inhabited Whole := ⟨.list []⟩

/-- The lists, sets and maps of a document, each at the number of its node. -/
abbrev Wholes := Array Whole

namespace Part

def nanValue : Value := .float (0 / 0)

/-! ## Keys -/

/-- Whether a part may be the key of a map: one that nothing can be put
into. -/
def isKey : Part → Bool
  | .whole _ => false
  | _ => true

def same : Part → Part → Bool
  | .plain a, .plain b => a.same b
  | .nan a, .nan b => a = b
  | _, _ => false

/-- Entries with one more: it takes over the place of an entry with the same
key. -/
def putEntry (key v : Part) : List (Part × Part) → List (Part × Part)
  | [] => [(key, v)]
  | e :: es => if e.1.same key then (e.1, v) :: es else e :: putEntry key v es

/-! ## Looking at parts -/

def kindName (wholes : Wholes) : Part → String
  | .plain v => v.kindName
  | .nan _ => nanValue.kindName
  | .pair .. => "tuple"
  | .whole id =>
    match wholes.getD id default with
    | .list _ => "list"
    | .set _ => "set"
    | .map _ => "dict"

def isVoid (wholes : Wholes) : Part → Bool
  | .plain v => v.isVoid
  | .nan _ | .pair .. => false
  | .whole id =>
    match wholes.getD id default with
    | .list items | .set items => items.isEmpty
    | .map entries => entries.isEmpty

def isText (key : String) : Part → Bool
  | .plain (.text s) => s = key
  | _ => false

def entries? (wholes : Wholes) : Part → Option (String → Option Part)
  | .whole id =>
    match wholes.getD id default with
    | .map entries => some fun key => (entries.find? fun e => e.1.isText key).map (·.2)
    | _ => none
  | _ => none

/-! ## Spelling out -/

/-- A part as a value, inside the wholes of `around`. The number bounds how
many parts inside each other are spelled out. -/
def spellFrom (wholes : Wholes) : Nat → List Nat → Part → Except Abort Value
  | 0, _, _ => .error .shownTooDeep
  | n + 1, around, p =>
    match p with
    | .plain v => if v.isShowable then .ok v else .error .numberTooLong
    | .nan _ => .ok nanValue
    | .pair a b => do
      let first ← spellFrom wholes n around a
      let second ← spellFrom wholes n around b
      return .tuple [first, second]
    | .whole id =>
      let inside := spellFrom wholes n (id :: around)
      match wholes.getD id default with
      | .list items =>
        if around.contains id then .ok (.loop false) else (items.mapM inside).map .list
      | .set items => (items.mapM inside).map fun vs => .set (Value.scattered vs)
      | .map entries =>
        if around.contains id then .ok (.loop true)
        else
          (entries.mapM fun (e : Part × Part) => do
            let key ← inside e.1
            let v ← inside e.2
            return (key, v)).map .map

/-- A part as a value, with at most `deepest` parts inside each other. -/
def spell (deepest : Nat) (wholes : Wholes) (p : Part) : Except Abort Value :=
  spellFrom wholes deepest [] p

end Part

end ThreeBlock.Yaml
