-- Transitions as pairs of positions, such as `1-2;2-3`. A token is two
-- numerals with a dash between, and both lie in the state list. All tokens
-- are read before the first fault is looked for, so a numeral too long to
-- read stops the run wherever it stands.
import ThreeBlock.Reading.Events
import ThreeBlock.Text.Segments
namespace ThreeBlock

/-! ## One token -/

/-- The text before the first dash and the text after it. -/
def splitAtDash : List Char → Option (List Char × List Char)
  | [] => none
  | c :: cs =>
    if c = '-' then some ([], cs)
    else (splitAtDash cs).map fun p => (c :: p.1, p.2)

def numeralPair (cs : List Char) : Option (List Char × List Char) :=
  (splitAtDash cs).filter fun p => Text.isNumeral p.1 && Text.isNumeral p.2

def inRange (count n : Nat) : Bool := 1 ≤ n && n ≤ count

def readPair (count : Nat) (token : String) : Except Stop (Nat × Nat) :=
  match numeralPair token.toList with
  | none => .error (.fault (.malformedToken token 0))
  | some (a, b) =>
    match readNumeral a with
    | .error e => .error (.abort e)
    | .ok source =>
      match readNumeral b with
      | .error e => .error (.abort e)
      | .ok target =>
        if inRange count source && inRange count target then .ok (source, target)
        else .error (.fault (.positionOutOfRange token count))

/-! ## All tokens -/

/-- The first abort among some results, if there is one. -/
def firstAbort {α : Type} : List (Except Stop α) → Option Abort
  | [] => none
  | .error (.abort a) :: _ => some a
  | _ :: rs => firstAbort rs

/-- The values of some results. An abort anywhere comes first, then the
first fault. -/
def collectStops {α : Type} (rs : List (Except Stop α)) : Except Stop (List α) :=
  match firstAbort rs with
  | some a => .error (.abort a)
  | none => rs.mapM id

/-- The transitions that a text spells over a state list. -/
def TransitionSet.read (raw : String) (states : StateList) : Except Stop TransitionSet :=
  match Text.segments raw with
  | [] => .error (.fault .noTransitions)
  | tokens =>
    match collectStops (tokens.map (readPair states.size)) with
    | .error e => .error e
    | .ok ps => (ofPositions states (ps.map fun p => (↑p.1, ↑p.2))).mapError .abort

/-! ## The log -/

/-- What is told of reading pairs of positions. An empty text and an abort are
not told of. -/
def TransitionSet.readEvent? : Except Stop TransitionSet → Option Event
  | .ok ts => some (.transitionsResolved .index none ts)
  | .error (.fault .noTransitions) => none
  | .error (.fault f) => some (.transitionsRejected .index f)
  | .error (.abort _) => none

def TransitionSet.readLogged (raw : String) (states : StateList) :
    Logged (Except Stop TransitionSet) := do
  let x := TransitionSet.read raw states
  (readEvent? x).forM Logged.tell
  return x

end ThreeBlock
