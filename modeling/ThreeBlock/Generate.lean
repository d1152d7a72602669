-- One request, start to end: read the states and transitions, review the
-- machine, write it. The request gives a machine with its text and its
-- warnings, or the first thing that stops it.
import ThreeBlock.Hdl.Render
import ThreeBlock.Reading.Declarations
import ThreeBlock.Reading.Ring
import ThreeBlock.Review
import ThreeBlock.Settings.Basic
namespace ThreeBlock

/-! ## Requests -/

/-- What to generate from. A text that is missing reads as an empty one. -/
inductive Request where
  | fast (states : Option String)
  | advanced (states transitions : Option String)
  | inline (declarations : Option String)
  deriving DecidableEq, Repr

/-- What a request gives. -/
structure Generation where
  definition : Definition
  code : String
  warnings : List String
  deriving DecidableEq, Repr

namespace Request

def mode : Request → String
  | .fast _ => "fast"
  | .advanced .. => "advanced"
  | .inline _ => "inline"

/-! ## Machines -/

/-- The machine of a reading, unless the reading gave none. -/
def defined {α : Type} (make : α → Definition) (x : Logged (Except Stop α)) :
    Logged (Except Stop Definition) := do
  return (← x).map make

/-- The edges for a state list, unless there is none. -/
def whenRead (x : Logged (Except Fault StateList))
    (f : StateList → Logged (Except Stop Definition)) : Logged (Except Stop Definition) := do
  match ← x with
  | .error e => return .error (.fault e)
  | .ok states => f states

/-- The machine that a request describes, with the log of reading it. -/
def read : Request → Logged (Except Stop Definition)
  | .fast raw =>
    whenRead (StateList.readLogged (raw.getD "")) fun states => do
      return .ok ⟨states, ← TransitionSet.ringLogged states, .cyclic⟩
  | .advanced raw spec =>
    whenRead (StateList.readLogged (raw.getD "")) fun states =>
      defined (fun ts => ⟨states, ts, .explicit⟩)
        (TransitionSet.readLogged (spec.getD "") states)
  | .inline raw =>
    defined (fun r => ⟨r.1, r.2, .explicit⟩) (readDeclarationsLogged (raw.getD ""))

/-! ## Events -/

def given (raw : Option String) : Value := raw.elim .null .text

def startFields : Request → List (String × Value)
  | .fast raw => [("state_input", given raw)]
  | .advanced raw spec => [("state_input", given raw), ("transition_input", given spec)]
  | .inline raw => [("lines", .int (Text.lines (raw.getD "").toList).length)]

def started (r : Request) : Event := ⟨.info, "generator", "generation_started", r.startFields⟩

def rejected (f : Fault) : Event :=
  ⟨.warning, "generator", "generation_rejected",
    [("error", .text f.kind), ("reason", .text f.message)]⟩

def completed (mode : Value) (states transitions warnings : Value) : Event :=
  ⟨.info, "generation", "generation_completed",
    [("generation_mode", mode), ("states", states), ("transitions", transitions),
      ("warnings", warnings)]⟩

/-! ## The request as a whole -/

/-- A request that is stopped. A fault is told last; an abort is not told. -/
def stopped {α : Type} : Stop → Logged (Except Stop α)
  | .fault f => do
    Logged.tell (rejected f)
    return .error (.fault f)
  | .abort a => return .error (.abort a)

def write (mode : String) (stateMap : Bool) (d : Definition) (r : Report) :
    Logged (Except Stop Generation) := do
  match ← Hdl.renderLogged d.flavor stateMap d.states d.transitions with
  | .error a => stopped (.abort a)
  | .ok code =>
    Logged.tell (completed (.text mode) (.int d.states.size) (.int d.transitions.size)
      (.int r.warnings.length))
    return .ok ⟨d, code, r.warnings⟩

/-- The machine reviewed, and written when no error is found. -/
def finish (mode : String) (settings : Settings) (d : Definition) :
    Logged (Except Stop Generation) := do
  match ← Report.reviewLogged settings.strict d with
  | .error a => stopped (.abort a)
  | .ok r =>
    match r.errors with
    | f :: _ => stopped (.fault f)
    | [] => write mode settings.stateMap d r

/-- The work on a request, from its first event to its last. -/
def run (settings : Settings) (r : Request) : Logged (Except Stop Generation) := do
  Logged.tell r.started
  match ← r.read with
  | .error s => stopped s
  | .ok d => finish r.mode settings d

/-- A request put under a name that is made for it. -/
def perform (made : String) (settings : Settings) (r : Request) :
    Logged (Except Stop Generation) := do
  Logged.enter (.fresh made r.mode)
  r.run settings

/-- What a request gives. -/
def generate (settings : Settings) (r : Request) : Except Stop Generation :=
  (r.run settings).value

end Request

end ThreeBlock
