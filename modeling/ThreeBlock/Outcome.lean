-- Outcomes of steps on plain values: a good value or a bad one. A bad
-- outcome passes through every further step unchanged.
import ThreeBlock.Value
namespace ThreeBlock

/-- A good value or a bad one. -/
inductive Outcome where
  | ok (v : Value)
  | err (v : Value)
  deriving Inhabited

namespace Outcome

def isOk : Outcome → Bool
  | .ok _ => true
  | .err _ => false

def errText (shown : String) : String := "Err(" ++ shown ++ ")"

def display : Outcome → String
  | .ok v => "Ok(" ++ v.display ++ ")"
  | .err v => errText v.display

/-- The complaint about asking a bad outcome for its good value. -/
def notOk (shown : String) : String := "Called unwrap on Err value: " ++ shown

/-- The complaint about asking a good outcome for its bad value. -/
def notErr (shown : String) : String := "Called unwrap_err on Ok value: " ++ shown

def value : Outcome → Except String Value
  | .ok v => .ok v
  | .err v => .error (notOk v.plain)

def failure : Outcome → Except String Value
  | .ok v => .error (notErr v.plain)
  | .err v => .ok v

def andThen (o : Outcome) (f : Value → Outcome) : Outcome :=
  match o with
  | .ok v => f v
  | .err v => .err v

def map (f : Value → Value) (o : Outcome) : Outcome := o.andThen fun v => .ok (f v)

/-- Whether two outcomes are of one kind and hold the same value. -/
def same : Outcome → Outcome → Bool
  | .ok a, .ok b => a.same b
  | .err a, .err b => a.same b
  | _, _ => false

/-- The values of good outcomes in a list, or the first bad outcome. -/
def collect : List Outcome → Except Value (List Value)
  | [] => .ok []
  | .err v :: _ => .error v
  | .ok v :: os => (collect os).map (v :: ·)

/-- The list of the good values as an outcome, or the first bad outcome. -/
def all (os : List Outcome) : Outcome :=
  match collect os with
  | .ok vs => .ok (.list vs)
  | .error v => .err v

end Outcome

end ThreeBlock
