-- Arguments sorted out: the switches that they give, with their values, and
-- the operands. The first argument that makes no sense ends the sorting.
import ThreeBlock.CommandLine.Misuse
import ThreeBlock.Text.Likeness
namespace ThreeBlock.CommandLine

/-! ## One argument -/

/-- A switch that was given, with its value; empty for one that takes
none. -/
structure Given where
  switch : Switch
  value : String := ""
  deriving DecidableEq, Repr

/-- What one argument says. -/
structure Word where
  given : List Given := []
  waiting : Option (Switch × String) := none
  deriving DecidableEq, Repr

namespace Word

/-- A switch by its name, with the value behind it if there is one. -/
def ofName (s : Switch) (name : String) (value? : Option String) : Except Misuse Word :=
  match s.takesValue, value? with
  | true, some value => .ok { given := [⟨s, value⟩] }
  | true, none => .ok { waiting := some (s, name) }
  | false, some _ => .error (.takesNoValue name)
  | false, none => .ok { given := [⟨s, ""⟩] }

/-- Switches by their letters. The letters behind one that takes a value are
its value. -/
def ofLetters (known : List Switch) : List Char → Except Misuse Word
  | [] => .ok {}
  | c :: cs =>
    match known.find? fun s => s.letter? = some c with
    | none => .error (.unknownSwitch (Switch.letterName c) [])
    | some s =>
      if s.takesValue then
        if cs = [] then .ok { waiting := some (s, Switch.letterName c) }
        else .ok { given := [⟨s, String.ofList cs⟩] }
      else (ofLetters known cs).map fun w => { w with given := ⟨s, ""⟩ :: w.given }

def ofArgument (known : List Switch) (arg : String) : Except Misuse Word :=
  let cs := arg.toList
  let name := String.ofList (cs.takeWhile fun c => c ≠ '=')
  let rest := cs.dropWhile fun c => c ≠ '='
  match known.find? fun s => s.name = name with
  | some s => ofName s name (rest.head?.map fun _ => String.ofList rest.tail)
  | none =>
    if cs.take 2 = ['-', '-'] then
      .error (.unknownSwitch name (Text.closest 3 name (known.map Switch.name)))
    else ofLetters known cs.tail

end Word

/-! ## All arguments -/

/-- Arguments sorted out. -/
structure Arguments where
  given : List Given := []
  operands : List String := []
  deriving DecidableEq, Repr

namespace Arguments

/-- Whether an argument is a switch: a dash with something behind it. -/
def isSwitch (arg : String) : Bool := arg.toList.head? = some '-' && 1 < arg.length

def give (given : List Given) (a : Arguments) : Arguments :=
  { a with given := given ++ a.given }

def offer (operand : String) (a : Arguments) : Arguments :=
  { a with operands := operand :: a.operands }

/-- Sort out arguments. Two dashes alone end the switches; unless `mixed`
says that switches may follow an operand, so does the first operand. -/
def read (known : List Switch) (mixed : Bool) : List String → Except Misuse Arguments
  | [] => .ok {}
  | arg :: args =>
    if arg = "--" then .ok { operands := args }
    else if isSwitch arg then
      match Word.ofArgument known arg with
      | .error m => .error m
      | .ok ⟨given, none⟩ => (read known mixed args).map (give given)
      | .ok ⟨given, some (s, name)⟩ =>
        match args with
        | [] => .error (.lacksValue name)
        | value :: args => (read known mixed args).map (give (given ++ [⟨s, value⟩]))
    else if mixed then (read known mixed args).map (offer arg)
    else .ok { operands := arg :: args }

def last? {α : Type} (word : Given → Option α) (gs : List Given) : Option α :=
  gs.reverse.findSome? word

/-- The value of a switch; of one given more than once the last value
counts. -/
def value? (s : Switch) (gs : List Given) : Option String :=
  last? (fun g => if g.switch = s then some g.value else none) gs

def has (s : Switch) (gs : List Given) : Bool := gs.any fun g => g.switch = s

def choice? (on off : Switch) (gs : List Given) : Option Bool :=
  last? (fun g =>
    if g.switch = on then some true else if g.switch = off then some false else none) gs

end Arguments

end ThreeBlock.CommandLine
