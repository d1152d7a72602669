-- What a run may look at, read off its arguments alone: the paths of files
-- and directories, and the standard input. The program looks at these
-- before it runs, and at nothing else.
import ThreeBlock.CommandLine.Run
namespace ThreeBlock.CommandLine

def namedFiles (gs : List Given) : List String :=
  (Arguments.value? .config gs).toList ++ (Arguments.value? .output gs).toList

/-- The operand that names the source of declarations, if a command asks for
one. -/
def sourceName? : List String → Option String
  | name :: args =>
    if name = Command.inline.name then
      match Arguments.read Command.inline.switches true args with
      | .ok a => some (a.operands.head?.getD "-")
      | .error _ => none
    else none
  | [] => none

/-- What a run may look at. -/
structure Reach where
  paths : List String := []
  stdin : Bool := false
  deriving DecidableEq, Repr

namespace Reach

def ofArguments (args : List String) : Reach :=
  match Arguments.read Switch.ofProgram false args with
  | .error _ => {}
  | .ok a =>
    let again :=
      match Arguments.read Switch.ofProgram false a.operands with
      | .ok b => namedFiles b.given
      | .error _ => []
    let source := sourceName? a.operands
    { paths := Settings.usualFile.text :: namedFiles a.given ++ again ++
        source.toList.filter fun s => s ≠ "-"
      stdin := source = some "-" }

/-- The places on the way along a path, the last one included. -/
def placesAlong (s : String) : List Place :=
  let step (ls : List Place) (name : String) : List Place := (ls.headD {}).step name :: ls
  ((Path.pieces s).foldl step [Place.start (Path.rootOf s)]).reverse

def places (r : Reach) : List Place := (r.paths.flatMap placesAlong).eraseDups

end Reach

end ThreeBlock.CommandLine
