-- Paths. A path is shown without empty steps and without steps to where it
-- already is; steps to the directory above are kept.
import ThreeBlock.Text.Segments
namespace ThreeBlock

/-- A path: where it starts, and its steps. -/
structure Path where
  /-- Empty for a path from the working directory; else one slash or two. -/
  root : String := ""
  /-- The steps, first to last. -/
  steps : List String
  deriving DecidableEq, Repr, Inhabited

namespace Path

def pieces (s : String) : List String := (Text.cut '/' s.toList).map String.ofList

def rootOf (s : String) : String :=
  match s.toList with
  | '/' :: '/' :: '/' :: _ => "/"
  | '/' :: '/' :: _ => "//"
  | '/' :: _ => "/"
  | _ => ""

def isIdle (step : String) : Bool := step = "" || step = "."

def ofString (s : String) : Path := ⟨rootOf s, (pieces s).filter fun p => !isIdle p⟩

def text (p : Path) : String :=
  if p.steps = [] then (if p.root = "" then "." else p.root)
  else p.root ++ String.intercalate "/" p.steps

def parent (p : Path) : Path := { p with steps := p.steps.dropLast }

/-- The last step; empty when there is none. -/
def name (p : Path) : String := p.steps.getLast?.getD ""

end Path

end ThreeBlock
