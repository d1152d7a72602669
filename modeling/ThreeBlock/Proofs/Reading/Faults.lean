-- Where a fault comes from. The names of the states have faults of their own, and so have the
-- tokens of the transitions and the machine as a whole. So a fault tells the stage at which it
-- was found, and with the stage the exit code.
import ThreeBlock.Proofs.Reading.Occurrences
namespace ThreeBlock

/-! ## Three kinds of faults -/

namespace Fault

/-- A fault of the names of the states. -/
def isOfNames : Fault → Bool
  | .insufficientStates _ | .invalidIdentifiers _ => true
  | _ => false

/-- A fault of a token. -/
def isOfToken : Fault → Bool
  | .malformedToken .. | .positionOutOfRange .. | .sourceMismatch .. | .targetOutOfRange ..
  | .stateNotFound .. => true
  | _ => false

/-- A fault that only a strict review finds. -/
def isStrict : Fault → Bool
  | .duplicateStates _ | .duplicateFlags _ => true
  | _ => false

theorem exitCode_of_isOfNames {f : Fault} (h : f.isOfNames = true) : f.exitCode = 10 := by
  cases f <;> first | rfl | cases h

theorem exitCode_of_isOfToken {f : Fault} (h : f.isOfToken = true) : f.exitCode = 11 := by
  cases f <;> first | rfl | cases h

theorem exitCode_of_isStrict {f : Fault} (h : f.isStrict = true) : f.exitCode = 20 := by
  cases f <;> first | rfl | cases h

end Fault

section Stages

variable {f : Fault}

/-! ## Names -/

theorem isOfNames_of_ofNames {names : List String} (h : StateList.ofNames names = .error f) :
    f.isOfNames = true := by
  unfold StateList.ofNames at h
  split at h
  · cases h
    rfl
  · split at h
    · cases h
    · cases h
      rfl

/-! ## Pairs of positions -/

theorem isOfToken_of_readPair {count : Nat} {token : String}
    (h : readPair count token = .error (.fault f)) : f.isOfToken = true := by
  unfold readPair at h
  split at h
  · cases h
    rfl
  · split at h
    · cases h
    · split at h
      · cases h
      · split at h
        · cases h
        · cases h
          rfl

theorem mem_of_collectStops {α : Type} {rs : List (Except Stop α)}
    (h : collectStops rs = .error (.fault f)) : .error (.fault f) ∈ rs := by
  unfold collectStops at h
  split at h
  · cases h
  · obtain ⟨before, r, after, rfl, _, hr⟩ := mapM_eq_error_iff.1 h
    obtain rfl : r = .error (.fault f) := hr
    simp

/-- A text of pairs has no token at all, or a token at fault. -/
theorem TransitionSet.fault_of_read {raw : String} {states : StateList}
    (h : TransitionSet.read raw states = .error (.fault f)) :
    f = .noTransitions ∨ f.isOfToken = true := by
  unfold TransitionSet.read at h
  split at h
  · cases h
    exact .inl rfl
  · split at h
    · next hcollect =>
      cases h
      obtain ⟨token, _, hread⟩ := List.mem_map.1 (mem_of_collectStops hcollect)
      exact .inr (isOfToken_of_readPair hread)
    · obtain ⟨a, _, ha⟩ := mapError_eq_error_iff.1 h
      cases ha

/-! ## Declarations -/

theorem Occurrence.isOfToken_of_read {states : StateList} {u : Occurrence}
    (h : u.read states = .error (.fault f)) : f.isOfToken = true := by
  unfold Occurrence.read readEdge at h
  split at h
  · cases h
    rfl
  · dsimp only at h
    split at h
    · cases h
      rfl
    · unfold ownEdge at h
      split at h
      · cases h
      · cases h
        rfl
      · split at h
        · cases h
        · cases h
          rfl
        · cases h

/-- Declarations are refused for their names before a token is read. -/
theorem readDeclarations_of_ofNames {raw : String}
    (h : StateList.ofNames (declaredNames raw) = .error f) :
    readDeclarations raw = .error (.fault f) := by
  rw [readDeclarations, resolveDeclarations, map_name_readAll, h]

theorem isOfToken_of_readDeclarations {raw : String} {states : StateList}
    (hnames : StateList.ofNames (declaredNames raw) = .ok states)
    (h : readDeclarations raw = .error (.fault f)) : f.isOfToken = true := by
  obtain ⟨hcount, hnamed, _⟩ := StateList.ofNames_eq_ok_iff.1 hnames
  rw [readDeclarations_of_isIdentifier hcount hnamed, map_eq_error_iff] at h
  obtain ⟨_, u, _, _, _, hread⟩ := mapM_eq_error_iff.1 h
  exact Occurrence.isOfToken_of_read hread

end Stages

end ThreeBlock
