-- Faults, the mistakes in the input that a user is told about. Each fault
-- has a kind, a message and an exit code; the exit code depends on the kind
-- alone.
import ThreeBlock.Value
namespace ThreeBlock

/-- A mistake in the input. -/
inductive Fault where
  | insufficientStates (found : Int)
  | invalidIdentifiers (names : List String)
  | malformedToken (token : String) (line : Int)
  | positionOutOfRange (token : String) (stateCount : Int)
  | noTransitions
  /-- A token on the line of one state that starts from another. -/
  | sourceMismatch (line : Int) (token state : String)
  | targetOutOfRange (line : Int) (token : String) (stateCount : Int)
  | stateNotFound (name : String) (line : Int)
  | duplicateStates (names : List String)
  | duplicateFlags (flags : List String)
  deriving DecidableEq, Repr

namespace Fault

/-! ## Kinds and exit codes -/

def kind : Fault → String
  | .insufficientStates .. => "InsufficientStatesError"
  | .invalidIdentifiers .. => "InvalidIdentifierError"
  | .malformedToken .. => "MalformedTransitionTokenError"
  | .positionOutOfRange .. => "IndexOutOfRangeError"
  | .noTransitions => "NoTransitionsError"
  | .sourceMismatch .. => "SourceIndexMismatchError"
  | .targetOutOfRange .. => "TargetIndexOutOfRangeError"
  | .stateNotFound .. => "StateNotFoundError"
  | .duplicateStates .. => "DuplicateStateError"
  | .duplicateFlags .. => "DuplicateFlagError"

/-- The exit code of the command line for a fault: 10 for the states, 11 for
the transitions, 20 for a strict check. -/
def exitCode : Fault → Nat
  | .insufficientStates .. | .invalidIdentifiers .. => 10
  | .duplicateStates .. | .duplicateFlags .. => 20
  | _ => 11

/-! ## Messages -/

/-- Names with commas between; an empty name is shown in quotes. -/
def joined (names : List String) : String :=
  String.intercalate ", " (names.map fun n => if n = "" then Text.quoted n else n)

def onLine (line : String) : String := "Line " ++ line ++ ": "

def validRange (stateCount : String) : String := "Valid range: 1-" ++ stateCount

def invalidText (names : String) : String := "Invalid state names: " ++ names

def malformedText (token : String) : String :=
  "Invalid transition format: " ++ token ++ ". Use format: source-target"

/-- What is said about a token with a position outside the list. -/
def positionText (token stateCount : String) : String :=
  "Invalid state number: " ++ token ++ ". " ++ validRange stateCount

def mismatchText (line token state : String) : String :=
  onLine line ++ "transition " ++ token ++ " must start from state " ++ line ++ " (" ++ state ++ ")"

def targetText (line token stateCount : String) : String :=
  onLine line ++ "invalid target in " ++ token ++ ". " ++ validRange stateCount

def notFoundText (line name : String) : String := onLine line ++ "state not found: " ++ name

def duplicateText (names : String) : String := "Duplicate state names: " ++ names

def duplicateFlagText (flags : String) : String := "Duplicate transition flags: " ++ flags

def message : Fault → String
  | .insufficientStates _ => "Please enter at least two state names"
  | .invalidIdentifiers names => invalidText (joined names)
  | .malformedToken token line =>
    (if line = 0 then "" else onLine (Text.intText line)) ++ malformedText token
  | .positionOutOfRange token stateCount => positionText token (Text.intText stateCount)
  | .noTransitions => "Please enter at least one transition"
  | .sourceMismatch line token state => mismatchText (Text.intText line) token state
  | .targetOutOfRange line token stateCount =>
    targetText (Text.intText line) token (Text.intText stateCount)
  | .stateNotFound name line => notFoundText (Text.intText line) name
  | .duplicateStates names => duplicateText (joined names)
  | .duplicateFlags flags => duplicateFlagText (joined flags)

/-! ## Fields -/

def fields : Fault → List (String × Value)
  | .insufficientStates found => [("found", .int found)]
  | .invalidIdentifiers names => [("names", .textTuple names)]
  | .malformedToken token line => [("token", .text token), ("line", .int line)]
  | .positionOutOfRange token count => [("token", .text token), ("state_count", .int count)]
  | .noTransitions => []
  | .sourceMismatch line token state =>
    [("line", .int line), ("token", .text token), ("state", .text state)]
  | .targetOutOfRange line token count =>
    [("line", .int line), ("token", .text token), ("state_count", .int count)]
  | .stateNotFound name line => [("name", .text name), ("line", .int line)]
  | .duplicateStates names => [("names", .textTuple names)]
  | .duplicateFlags flags => [("flags", .textTuple flags)]

def blanks : List Fault :=
  [.insufficientStates 0, .invalidIdentifiers [], .malformedToken "" 0, .positionOutOfRange "" 0,
    .noTransitions, .sourceMismatch 0 "" "", .targetOutOfRange 0 "" 0, .stateNotFound "" 0,
    .duplicateStates [], .duplicateFlags []]

/-- A fault spelled out: its kind, and its fields between parentheses. -/
def display (f : Fault) : String := Value.recordDisplay f.kind f.fields

end Fault

/-- Why a step gives no value: a fault of the input, or an abort. -/
inductive Stop where
  | fault (f : Fault)
  | abort (a : Abort)
  deriving DecidableEq, Repr

end ThreeBlock
