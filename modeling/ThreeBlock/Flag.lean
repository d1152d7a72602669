-- Flag names. The flag of an edge is its source in lower case, the digit 2,
-- and its target in lower case. Different edges may share a flag.
import ThreeBlock.Text.Lowercase
import ThreeBlock.Transition
namespace ThreeBlock

/-- The flag for a pair of names. -/
def flagFor (source target : String) : String :=
  Text.lowercase source ++ "2" ++ Text.lowercase target

/-- The flag of an edge. -/
def Transition.flag (t : Transition) : String := flagFor t.source t.target

/-- The flags of the edges, in priority order and with repeats. -/
def TransitionSet.flags (ts : TransitionSet) : List String := ts.edges.map Transition.flag

end ThreeBlock
