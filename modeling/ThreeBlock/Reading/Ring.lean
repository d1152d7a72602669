-- The ring over a state list: every entry leads to the next, and the last
-- to the first. There is one edge per entry, in the order of the entries.
import ThreeBlock.Reading.Events
namespace ThreeBlock

def followers (names : List String) : List String := names.tail ++ names.take 1

/-- The ring over a state list. -/
def TransitionSet.ring (states : StateList) : TransitionSet :=
  ⟨List.zipWith (fun e target => ⟨e.2, target, e.1⟩) states.numbered (followers states.names)⟩

def TransitionSet.ringLogged (states : StateList) : Logged TransitionSet := do
  let ts := TransitionSet.ring states
  Logged.tell (.transitionsResolved .cyclic none ts)
  return ts

theorem followers_length (names : List String) : (followers names).length = names.length := by
  cases names <;> simp [followers]

theorem TransitionSet.ring_size (states : StateList) :
    (TransitionSet.ring states).size = states.size := by
  simp [TransitionSet.ring, TransitionSet.size, StateList.size, StateList.numbered,
    StateList.numberFrom_length, followers_length]

end ThreeBlock
