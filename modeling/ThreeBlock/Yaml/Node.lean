-- The graph of a YAML document. Its nodes have numbers, and a list or a map
-- holds the numbers of the nodes in it. So one node may stand in several
-- places, even inside itself.
import ThreeBlock.Text.Points
import ThreeBlock.Yaml.Tag
namespace ThreeBlock.Yaml

/-! ## Nodes -/

/-- What a node consists of. -/
inductive Form where
  | scalar (text : Text.Points)
  | list (items : List Nat)
  | map (entries : List (Nat × Nat))
  deriving DecidableEq, Repr

/-- A node of a document. -/
structure Node where
  tag : Tag
  form : Form
  deriving DecidableEq, Repr

namespace Node

def empty : Node := ⟨.null, .scalar []⟩

instance : Inhabited Node := ⟨empty⟩

/-- The entries of a map; none of any other node. -/
def entries (n : Node) : List (Nat × Nat) :=
  match n.form with
  | .map es => es
  | _ => []

def text? (n : Node) : Option Text.Points :=
  match n.form with
  | .scalar text => some text
  | _ => none

end Node

/-! ## Graphs -/

/-- The nodes of a document, each at its number. -/
structure Graph where
  nodes : Array Node
  deriving DecidableEq, Repr

namespace Graph

/-- The graph of some numbered nodes, all numbers below `count`. -/
def ofNodes (count : Nat) (numbered : List (Nat × Node)) : Graph :=
  ⟨numbered.foldl (fun ns e => ns.setIfInBounds e.1 e.2) (Array.replicate count Node.empty)⟩

def node (g : Graph) (id : Nat) : Node := g.nodes.getD id Node.empty

def hasTag (g : Graph) (t : Tag) (id : Nat) : Bool := (g.node id).tag = t

def set (g : Graph) (id : Nat) (n : Node) : Graph := ⟨g.nodes.setIfInBounds id n⟩

def retag (g : Graph) (t : Tag) (id : Nat) : Graph := g.set id { g.node id with tag := t }

def withEntries (g : Graph) (id : Nat) (es : List (Nat × Nat)) : Graph :=
  g.set id { g.node id with form := .map es }

end Graph

end ThreeBlock.Yaml
