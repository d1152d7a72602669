-- A machine ready to be written: its states, its transitions, and the
-- flavor of comments that its text carries.
import ThreeBlock.Transition
namespace ThreeBlock

/-- The two flavors of generated text: the ring of the fast mode, and edges
that the caller spelled out. -/
inductive Flavor where
  | cyclic
  | explicit
  deriving DecidableEq, Repr, Inhabited

namespace Flavor

def text : Flavor → String
  | .cyclic => "cyclic"
  | .explicit => "explicit"

def ofText (name : String) : Except Abort Flavor :=
  if name = "cyclic" then .ok .cyclic
  else if name = "explicit" then .ok .explicit
  else .error (.unknownFlavor name)

theorem ofText_text (f : Flavor) : ofText f.text = .ok f := by
  cases f <;> rfl

end Flavor

/-- Everything that the text of a machine is made from. -/
structure Definition where
  /-- The states; the first is the reset state. -/
  states : StateList
  transitions : TransitionSet
  flavor : Flavor := .explicit
  deriving DecidableEq, Repr, Inhabited

end ThreeBlock
