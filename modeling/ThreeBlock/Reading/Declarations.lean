-- States and transitions declared together, one state per line: its name,
-- then tokens such as `1-2` or `IDLE-RUN`, with semicolons between. Lines
-- without ink are passed over and not counted. A side of a token is the
-- position of a line or a declared name, and the source is always the state
-- of the line itself.
import ThreeBlock.Reading.Pairs
import ThreeBlock.Reading.States
import ThreeBlock.Text.Lines
namespace ThreeBlock

/-! ## Lines -/

/-- What one line declares. -/
structure Declaration where
  name : String
  tokens : List String
  deriving DecidableEq, Repr, Inhabited

namespace Declaration

/-- What a line declares: its first piece is the name, even an empty one, and
the later pieces with ink are the tokens. -/
def ofLine (line : List Char) : Declaration :=
  match Text.cut ';' line with
  | [] => ⟨"", []⟩
  | p :: ps => ⟨String.ofList (Text.trim p), (Text.inkedPieces ps).map String.ofList⟩

def readAll (raw : String) : List Declaration :=
  ((Text.lines raw.toList).filter Text.hasInk).map ofLine

def numberLines (next : Nat) : List Declaration → List (Nat × Declaration)
  | [] => []
  | d :: ds => (next, d) :: numberLines (next + 1) ds

end Declaration

/-! ## References -/

def referencePair (cs : List Char) : Option (List Char × List Char) :=
  (splitAtDash cs).filter fun p =>
    !p.1.isEmpty && p.1.all isIdentifierPart && !p.2.isEmpty && p.2.all isIdentifierPart

/-- One side of a token. -/
inductive Reference where
  | position (digits : List Char)
  | name (n : String)
  deriving DecidableEq, Repr

namespace Reference

def ofChars (cs : List Char) : Reference :=
  if cs.all Text.isDigit then .position cs else .name (String.ofList cs)

def missing? (states : StateList) : Reference → Option String
  | .position _ => none
  | .name n => if states.positionOf n = 0 then some n else none

/-- Whether a reference means the state `declared` on the line. -/
def isOwn (line : Nat) (declared : String) : Reference → Except Abort Bool
  | .position ds => (readNumeral ds).map fun n => n = line
  | .name n => .ok (n = declared)

/-- The name that a reference to a target means, if it lies in the list. -/
def target? (states : StateList) : Reference → Except Abort (Option String)
  | .position ds => (readNumeral ds).map fun n => states.at? n
  | .name n => .ok (some n)

end Reference

/-! ## One token -/

/-- The edge from a line's own state to what the target reference means,
once both references name declared states. -/
def ownEdge (states : StateList) (line : Nat) (declared token : String)
    (source target : Reference) : Except Stop Transition :=
  match source.isOwn line declared with
  | .error a => .error (.abort a)
  | .ok false => .error (.fault (.sourceMismatch line token declared))
  | .ok true =>
    match target.target? states with
    | .error a => .error (.abort a)
    | .ok none => .error (.fault (.targetOutOfRange line token states.size))
    | .ok (some name) => .ok ⟨declared, name, line⟩

/-- The edge that a token on a line stands for. Names come first, then the
source, then the target. -/
def readEdge (states : StateList) (line : Nat) (declared token : String) :
    Except Stop Transition :=
  match referencePair token.toList with
  | none => .error (.fault (.malformedToken token line))
  | some (a, b) =>
    let source := Reference.ofChars a
    let target := Reference.ofChars b
    match source.missing? states <|> target.missing? states with
    | some n => .error (.fault (.stateNotFound n line))
    | none => ownEdge states line declared token source target

/-! ## All lines -/

/-- The edges that the tokens of one line stand for. -/
def readLine (states : StateList) (d : Nat × Declaration) : Except Stop (List Transition) :=
  d.2.tokens.mapM (readEdge states d.1 d.2.name)

def readEdges (states : StateList) (ds : List Declaration) : Except Stop (List Transition) :=
  ((Declaration.numberLines 1 ds).mapM (readLine states)).map List.flatten

def resolveDeclarations (ds : List Declaration) : Except Stop (StateList × TransitionSet) :=
  match StateList.ofNames (ds.map Declaration.name) with
  | .error f => .error (.fault f)
  | .ok states => (readEdges states ds).map fun ts => (states, ⟨ts⟩)

/-- The states and transitions that a text declares. -/
def readDeclarations (raw : String) : Except Stop (StateList × TransitionSet) :=
  resolveDeclarations (Declaration.readAll raw)

/-! ## The log -/

/-- What is told of reading declarations. An abort is not told of. -/
def declarationEvent? : Except Stop (StateList × TransitionSet) → Option Event
  | .ok (states, ts) => some (.transitionsResolved .inline (some states.size) ts)
  | .error (.fault f) => some (.transitionsRejected .inline f)
  | .error (.abort _) => none

def readDeclarationsLogged (raw : String) : Logged (Except Stop (StateList × TransitionSet)) := do
  let x := readDeclarations raw
  (declarationEvent? x).forM Logged.tell
  return x

end ThreeBlock
