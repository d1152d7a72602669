-- State lists as users write them: names with semicolons between, blanks
-- and empty pieces left out. A list has at least two names, and then all of
-- them are identifiers; the count is looked at first.
import ThreeBlock.Fault
import ThreeBlock.Identifier
import ThreeBlock.StateList
import ThreeBlock.Text.Segments
import ThreeBlock.Trace
namespace ThreeBlock

/-! ## Names to a list -/

def fewestStates : Nat := 2

/-- The state list with given names, or the first rule that they break. -/
def StateList.ofNames (names : List String) : Except Fault StateList :=
  if names.length < fewestStates then .error (.insufficientStates names.length)
  else if invalidNames names = [] then .ok ⟨names⟩
  else .error (.invalidIdentifiers (invalidNames names))

/-- The state list that a text spells, or the first rule that it breaks. -/
def StateList.read (raw : String) : Except Fault StateList :=
  StateList.ofNames (Text.segments raw)

theorem StateList.ofNames_eq_ok_iff {names : List String} {states : StateList} :
    StateList.ofNames names = .ok states ↔
      fewestStates ≤ names.length ∧ (∀ n ∈ names, isIdentifier n = true) ∧ states = ⟨names⟩ := by
  unfold StateList.ofNames
  split
  · constructor
    · intro h
      cases h
    · rintro ⟨h, _⟩
      omega
  · split
    · next h =>
      rw [invalidNames_eq_nil_iff] at h
      constructor
      · intro h'
        cases h'
        exact ⟨by omega, h, rfl⟩
      · rintro ⟨_, _, rfl⟩
        rfl
    · next h =>
      rw [invalidNames_eq_nil_iff] at h
      constructor
      · intro h'
        cases h'
      · rintro ⟨_, h', _⟩
        exact absurd h' h

/-! ## The log -/

namespace Event

def stateListRejected (f : Fault) : Event :=
  ⟨.info, "parser.states", "state_list_rejected",
    [("error", .text f.kind), ("reason", .text f.message)]⟩

def stateListParsed (states : StateList) : Event :=
  ⟨.debug, "parser.states", "state_list_parsed", [("states", .texts states.names)]⟩

end Event

def StateList.readEvent : Except Fault StateList → Event
  | .error f => .stateListRejected f
  | .ok states => .stateListParsed states

def StateList.readLogged (raw : String) : Logged (Except Fault StateList) := do
  let x := StateList.read raw
  Logged.tell (readEvent x)
  return x

end ThreeBlock
