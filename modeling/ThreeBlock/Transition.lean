-- Transitions between states, in priority order. A transition knows the
-- entry that it leaves by position, so that entries with one name keep
-- their transitions apart; one given by names alone belongs to the first
-- entry with its source name.
import ThreeBlock.StateList
namespace ThreeBlock

/-- An edge from one state to another. -/
structure Transition where
  source : String
  target : String
  /-- The position of the entry that the edge leaves, or 0 when the edge is
  given by names alone. -/
  entry : Int := 0
  deriving DecidableEq, Repr, Inhabited

namespace Transition

def ends (t : Transition) : String × String := (t.source, t.target)

/-- Two edges are the same when they join the same names; the entry that
they leave does not count. -/
def sameAs (t u : Transition) : Bool := t.ends = u.ends

/-- The position of the entry that an edge leaves: its own entry, or else
the first entry with its source name. 0 stands for no entry at all. -/
def leaves (states : StateList) (t : Transition) : Int :=
  if t.entry = 0 then states.positionOf t.source else t.entry

def between (states : StateList) (p : Int × Int) : Except Abort Transition :=
  match states.nameAt p.1 with
  | .error a => .error a
  | .ok source =>
    match states.nameAt p.2 with
    | .error a => .error a
    | .ok target => .ok ⟨source, target, p.1⟩

end Transition

/-- Transitions in priority order: an earlier one wins over a later one. -/
structure TransitionSet where
  /-- The edges, first to last. -/
  edges : List Transition
  deriving DecidableEq, Repr, Inhabited

namespace TransitionSet

def size (ts : TransitionSet) : Nat := ts.edges.length

/-- The edges between pairs of positions, in order. The first position
outside the state list aborts. -/
def ofPositions (states : StateList) (ps : List (Int × Int)) : Except Abort TransitionSet :=
  (ps.mapM (Transition.between states)).map TransitionSet.mk

/-- The edges that leave any entry with a name, in priority order. -/
def fromSource (ts : TransitionSet) (name : String) : List Transition :=
  ts.edges.filter fun t => t.source = name

/-- The edges that leave the entry at a position, in priority order. -/
def fromPosition (ts : TransitionSet) (states : StateList) (position : Int) :
    List Transition :=
  ts.edges.filter fun t => t.leaves states = position

def pairs (ts : TransitionSet) : List (String × String) := ts.edges.map Transition.ends

/-- Two sets are the same when their edges are, one by one. -/
def sameAs (ts us : TransitionSet) : Bool := ts.pairs = us.pairs

end TransitionSet

end ThreeBlock
