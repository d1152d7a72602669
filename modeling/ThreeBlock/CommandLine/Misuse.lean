-- Misuse of the command line: what is wrong with the arguments, and the
-- text that tells the user.
import ThreeBlock.CommandLine.Switch
import ThreeBlock.Files.FileSystem
namespace ThreeBlock.CommandLine

/-- What is wrong with the arguments. -/
inductive Misuse where
  | unknownSwitch (name : String) (alike : List String)
  | lacksValue (name : String)
  | takesNoValue (name : String)
  | noCommand
  | unknownCommand (name : String)
  | lacksOperand (name : String)
  | extraOperands (operands : List String)
  /-- The value of a switch is none of its choices. -/
  | notChoice (switch : Switch) (value : String)
  | directory (switch : Switch) (value : String)
  | notReadable (switch : Switch) (value : String)
  | unreadable (source : String) (cause : Errno)
  deriving DecidableEq, Repr

def programName : String := "svfsm"

/-- The program, or one of its commands, as it is called. -/
def calledAs (c : Option Command) : String :=
  c.elim programName fun c => programName ++ " " ++ c.name

def usageLine (c : Option Command) : String :=
  let operands := c.elim ["COMMAND", "[ARGS]..."] Command.operands
  "Usage: " ++ String.intercalate " " (calledAs c :: "[OPTIONS]" :: operands) ++ "\n"

def errorLine (message : String) : String := "Error: " ++ message ++ "\n"

namespace Misuse

def badValue (hint : String) : String := "Invalid value for " ++ hint ++ ": "

def message : Misuse → String
  | .unknownSwitch name [] => "No such option: " ++ name
  | .unknownSwitch name [one] => "No such option: " ++ name ++ " Did you mean " ++ one ++ "?"
  | .unknownSwitch name alike =>
    "No such option: " ++ name ++ " (Possible options: " ++
      String.intercalate ", " (alike.mergeSort fun a b => decide (a ≤ b)) ++ ")"
  | .lacksValue name => "Option " ++ Text.quoted name ++ " requires an argument."
  | .takesNoValue name => "Option " ++ Text.quoted name ++ " does not take a value."
  | .noCommand => "Missing command."
  | .unknownCommand name => "No such command " ++ Text.quoted name ++ "."
  | .lacksOperand name => "Missing argument '" ++ name ++ "'."
  | .extraOperands operands =>
    "Got unexpected extra argument" ++ (if operands.length = 1 then "" else "s") ++ " (" ++
      String.intercalate " " operands ++ ")"
  | .notChoice switch value =>
    badValue switch.hint ++ Text.quoted value ++ " is not one of " ++
      String.intercalate ", " (switch.choices.map Text.quoted) ++ "."
  | .directory switch value =>
    badValue switch.hint ++ "File " ++ Text.quoted value ++ " is a directory."
  | .notReadable switch value =>
    badValue switch.hint ++ "File " ++ Text.quoted value ++ " is not readable."
  | .unreadable source cause =>
    badValue "'[SOURCE]'" ++ "'" ++ source ++ "': " ++ cause.text

/-- Whether a message comes without a word on how the program is called. -/
def isBare : Misuse → Bool
  | .lacksValue _ | .takesNoValue _ => true
  | _ => false

/-- The text about misuse of the program, or of one of its commands. -/
def page (c : Option Command) (m : Misuse) : String :=
  let hint := "Try '" ++ calledAs c ++ " " ++ Switch.help.name ++ "' for help.\n\n"
  (if m.isBare then "" else usageLine c ++ hint) ++ errorLine m.message

end Misuse

end ThreeBlock.CommandLine
