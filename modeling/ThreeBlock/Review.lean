-- The review of a machine before it is written. Repeated states and flags
-- are errors in strict mode and warnings otherwise. States that no path of
-- edges reaches from the reset state, and entries of an explicit machine
-- that no edge leaves, are only ever warnings.
import ThreeBlock.Definition
import ThreeBlock.Fault
import ThreeBlock.Flag
import ThreeBlock.Trace
namespace ThreeBlock

/-! ## Repeats -/

/-- The first occurrence of each name, in order. -/
def distinct : List String → List String
  | [] => []
  | n :: ns => n :: (distinct ns).filter fun m => m ≠ n

/-- The names that occur more than once, in order of first appearance. -/
def repeated (names : List String) : List String :=
  (distinct names).filter fun n => 1 < names.count n

/-! ## Reachability -/

def leaving (n : String) (edges : List Transition) : List Transition :=
  edges.filter fun t => t.source = n

def leavingOthers (n : String) (edges : List Transition) : List Transition :=
  edges.filter fun t => t.source ≠ n

/-- The targets of some edges that are not among the names reached, each
once. -/
def newTargets (reached : List String) (edges : List Transition) : List String :=
  distinct ((edges.map Transition.target).filter fun n => n ∉ reached)

theorem leavingOthers_of_leaving {n : String} {edges : List Transition}
    (h : leaving n edges = []) : leavingOthers n edges = edges := by
  simp only [leaving, List.filter_eq_nil_iff, decide_eq_true_eq] at h
  exact List.filter_eq_self.2 fun t ht => by simpa using h t ht

theorem length_leavingOthers_lt {n : String} {edges : List Transition}
    (h : leaving n edges ≠ []) : (leavingOthers n edges).length < edges.length := by
  obtain ⟨t, ht⟩ := List.exists_mem_of_ne_nil _ h
  simp only [leaving, List.mem_filter, decide_eq_true_eq] at ht
  exact List.length_filter_lt_length_iff_exists.2 ⟨t, ht.1, by simp [ht.2]⟩

/-- The names reached when the edges out of the frontier are followed to the
end. The edges out of a name are followed once and then put aside. -/
def reachAlong (edges : List Transition) (reached : List String) : List String → List String
  | [] => reached
  | n :: frontier =>
    let found := newTargets reached (leaving n edges)
    reachAlong (leavingOthers n edges) (reached ++ found) (found ++ frontier)
termination_by frontier => (edges.length, frontier.length)
decreasing_by
  by_cases h : leaving n edges = []
  · rw [leavingOthers_of_leaving h, h]
    apply Prod.Lex.right
    simp [newTargets, distinct]
  · exact Prod.Lex.left _ _ (length_leavingOthers_lt h)

/-- The names that a path of edges reaches from a name, the name itself
among them. -/
def reachedFrom (ts : TransitionSet) (name : String) : List String :=
  reachAlong ts.edges [name] [name]

/-- The state names that no path of edges reaches from `reset`, in order of
first appearance. -/
def unreachable (states : StateList) (ts : TransitionSet) (reset : String) : List String :=
  let reached := reachedFrom ts reset
  distinct (states.names.filter fun n => n ∉ reached)

/-! ## The report -/

/-- What a review finds. -/
structure Report where
  /-- Faults that stop the machine from being written. -/
  errors : List Fault := []
  warnings : List String := []
  deriving DecidableEq, Repr, Inhabited

namespace Report

def repeatedStates (names : List String) : String :=
  "Duplicate state names: " ++ String.intercalate ", " names

def repeatedFlags (flags : List String) : String :=
  "Duplicate transition flags: " ++ String.intercalate ", " flags

def notReached (reset name : String) : String :=
  "State " ++ name ++ " is unreachable from " ++ reset

def noWayOut (name : String) : String := "State " ++ name ++ " has no outgoing transitions"

def deadEnds (d : Definition) : List String :=
  (d.states.numbered.filter fun e => d.transitions.fromPosition d.states e.1 = []).map (·.2)

/-- Warnings with one more, unless it is already there. -/
def addOnce (warnings : List String) (w : String) : List String :=
  if w ∈ warnings then warnings else warnings ++ [w]

def strictErrors (d : Definition) : List Fault :=
  let states := repeated d.states.names
  let flags := repeated d.transitions.flags
  (if states = [] then [] else [.duplicateStates states]) ++
    (if flags = [] then [] else [.duplicateFlags flags])

/-- The warnings that stand for the errors of strict mode. -/
def repeatWarnings (d : Definition) : List String :=
  let states := repeated d.states.names
  let flags := repeated d.transitions.flags
  (if states = [] then [] else [repeatedStates states]) ++
    (if flags = [] then [] else [repeatedFlags flags])

/-- The warnings about entries that nothing leaves, on top of those before
them. A ring has no such warnings. -/
def withDeadEnds (d : Definition) (warnings : List String) : List String :=
  match d.flavor with
  | .cyclic => warnings
  | .explicit => ((deadEnds d).map noWayOut).foldl addOnce warnings

/-- The review of a machine. One without states has no reset state to start
from. -/
def review (strict : Bool) (d : Definition) : Except Abort Report :=
  d.states.reset.map fun reset =>
    let lost := (unreachable d.states d.transitions reset).map (notReached reset)
    { errors := if strict then strictErrors d else []
      warnings :=
        withDeadEnds d ((if strict then [] else repeatWarnings d) ++ lost) }

/-! ## The log -/

/-- The event that tells the outcome of a review of `states` states. -/
def event (states : Nat) (r : Report) : Event :=
  if r.errors ≠ [] then
    ⟨.warning, "generator.validator", "strict_validation_failed",
      [("errors", .texts (r.errors.map Fault.message))]⟩
  else if r.warnings ≠ [] then
    ⟨.info, "generator.validator", "validation_warnings", [("warnings", .texts r.warnings)]⟩
  else ⟨.debug, "generator.validator", "validation_passed", [("states", .int states)]⟩

def reviewLogged (strict : Bool) (d : Definition) : Logged (Except Abort Report) := do
  let x := review strict d
  (x.toOption.map (event d.states.size)).forM Logged.tell
  return x

end Report

end ThreeBlock
