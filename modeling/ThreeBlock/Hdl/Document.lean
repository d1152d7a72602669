-- What the text of a machine shows, before any wording: the entries of the
-- state type, the flags, one arm per entry with its branches, and the reset
-- state. The branches of an arm are the edges that leave its entry, in
-- priority order.
import ThreeBlock.Definition
import ThreeBlock.Flag
namespace ThreeBlock.Hdl

/-- One branch of an arm: the flag that is tested, and the state that it
leads to. -/
structure Branch where
  flag : String
  target : String
  deriving DecidableEq, Repr, Inhabited

/-- The arm of one entry. -/
structure Arm where
  state : String
  branches : List Branch
  deriving DecidableEq, Repr, Inhabited

/-- What the text of a machine shows. -/
structure Document where
  flavor : Flavor
  /-- The numbered table of the states at the top; empty for none. -/
  stateMap : List String
  states : List String
  flags : List String
  arms : List Arm
  reset : String
  deriving DecidableEq, Repr

def Branch.ofTransition (t : Transition) : Branch := ⟨t.flag, t.target⟩

def Arm.ofEntry (states : StateList) (ts : TransitionSet) (e : Nat × String) : Arm :=
  ⟨e.2, (ts.fromPosition states e.1).map Branch.ofTransition⟩

def armsOf (states : StateList) (ts : TransitionSet) : List Arm :=
  states.numbered.map (Arm.ofEntry states ts)

/-- What the text of a machine shows. A machine without states has no reset
state, and so no text. -/
def Document.ofMachine (flavor : Flavor) (withMap : Bool) (states : StateList)
    (ts : TransitionSet) : Except Abort Document :=
  states.reset.map fun reset =>
    { flavor
      stateMap := if withMap then states.mapping else []
      states := states.names
      flags := ts.flags
      arms := armsOf states ts
      reset }

end ThreeBlock.Hdl
