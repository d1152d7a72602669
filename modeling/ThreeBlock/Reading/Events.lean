-- The events of reading transitions, whatever the way they are written.
import ThreeBlock.Fault
import ThreeBlock.Trace
import ThreeBlock.Transition
namespace ThreeBlock

/-- The ways to write transitions down. -/
inductive Strategy where
  /-- Each state leads to the next, the last to the first. -/
  | cyclic
  | index
  | inline
  deriving DecidableEq, Repr

def Strategy.text : Strategy → String
  | .cyclic => "cyclic"
  | .index => "index"
  | .inline => "inline"

namespace Event

def transitionsRejected (s : Strategy) (f : Fault) : Event :=
  ⟨.info, "parser.transitions", "transitions_rejected",
    [("strategy", .text s.text), ("error", .text f.kind), ("reason", .text f.message)]⟩

/-- Transitions were read. The number of states is told where the states
come with them. -/
def transitionsResolved (s : Strategy) (stateCount : Option Nat) (ts : TransitionSet) : Event :=
  ⟨.debug, "parser.transitions", "transitions_resolved",
    ("strategy", .text s.text) ::
      (stateCount.toList.map fun n => ("states", .int n)) ++
      [("transitions", .textPairs ts.pairs)]⟩

end Event

end ThreeBlock
