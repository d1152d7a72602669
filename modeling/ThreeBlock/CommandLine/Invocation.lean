-- What the arguments ask for. The switches of the program are read first
-- and name a command; its own arguments are read later, once the settings
-- are known. Asking for the version or for help ends the reading, and so
-- does misuse.
import ThreeBlock.CommandLine.Arguments
import ThreeBlock.Settings.Basic
namespace ThreeBlock.CommandLine

/-! ## Endings -/

/-- Why the arguments lead to no command. -/
inductive Ending where
  /-- There are none. -/
  | noArguments
  | version
  | help (c : Option Command)
  | misuse (c : Option Command) (m : Misuse)
  | failed (message : String)
  deriving DecidableEq, Repr

def asked? (c : Option Command) (gs : List Given) : Option Ending :=
  gs.findSome? fun g =>
    match g.switch with
    | .version => some .version
    | .help => some (.help c)
    | _ => none

/-! ## Values -/

/-- A letter, when case does not count. Of the letters beyond ASCII the long
s is the same as a plain one, and the sign for Kelvin the same as a k. -/
def foldCase (c : Char) : Char :=
  if c.toNat = 0x17F then 's' else if c.toNat = 0x212A then 'k' else c.toLower

/-- The choice of a switch that a value stands for, in any case. -/
def choiceOf? (s : Switch) (value : String) : Option String :=
  s.choices.find? fun w => w.toList = value.toList.map foldCase

/-- What is wrong with the name of a file that a switch gives. The file may
be missing, but may not be a directory or a file that is denied. -/
def badFile? (fs : FileSystem) (s : Switch) (value : String) : Option Ending :=
  match fs.locateSpelled value with
  | .ok l =>
    if fs.isDirectory l then some (.misuse none (.directory s value))
    else if fs.bar? l = some (.shut .denied) then some (.misuse none (.notReadable s value))
    else none
  | .error .nulInside => some (.failed Errno.nulInside.text)
  | .error _ => none

def badValue? (fs : FileSystem) (s : Switch) (value : String) : Option Ending :=
  match s with
  | .config | .output => badFile? fs s value
  | .logLevel | .logFormat =>
    if (choiceOf? s value).isNone then some (.misuse none (.notChoice s value)) else none
  | _ => none

/-- What is wrong with the values of some switches: the first fault in the
order in which the switches were first given. -/
def firstBadValue? (fs : FileSystem) (gs : List Given) : Option Ending :=
  gs.findSome? fun g => (Arguments.value? g.switch gs).bind (badValue? fs g.switch)

/-! ## Options -/

/-- What the switches of the program say. -/
structure Options where
  /-- The file to read settings from. -/
  config : Option Path := none
  output : Option Path := none
  json : Bool := false
  overrides : Settings.Overrides := {}
  deriving DecidableEq, Repr

namespace Options

def ofGiven (gs : List Given) : Options :=
  { config := (Arguments.value? .config gs).map Path.ofString
    output := (Arguments.value? .output gs).map Path.ofString
    json := Arguments.has .json gs
    overrides :=
      { strict := Arguments.choice? .strict .noStrict gs
        stateMap := Arguments.choice? .stateMap .noStateMap gs
        level := (Arguments.value? .logLevel gs).bind (choiceOf? .logLevel)
        format := (Arguments.value? .logFormat gs).bind (choiceOf? .logFormat) } }

def read (fs : FileSystem) (args : List String) : Except Ending (Options × List String) :=
  match Arguments.read Switch.ofProgram false args with
  | .error m => .error (.misuse none m)
  | .ok a =>
    match asked? none a.given, firstBadValue? fs a.given with
    | some e, _ => .error e
    | none, some e => .error e
    | none, none => .ok (ofGiven a.given, a.operands)

end Options

/-! ## Invocations -/

/-- What the program is asked to do. -/
structure Invocation where
  options : Options
  command : Command
  arguments : List String
  deriving DecidableEq, Repr

/-- The invocation that some arguments spell. What stands in place of a
command may be a switch behind two dashes: then it is read as a switch
before it is refused. -/
def Invocation.read (fs : FileSystem) (args : List String) : Except Ending Invocation :=
  match Options.read fs args with
  | .error e => .error e
  | .ok (_, []) => .error (if args = [] then .noArguments else .misuse none .noCommand)
  | .ok (options, name :: rest) =>
    match Command.ofName? name with
    | some command => .ok ⟨options, command, rest⟩
    | none =>
      match Options.read fs (name :: rest) with
      | .error e => .error e
      | .ok _ => .error (.misuse none (.unknownCommand name))

/-! ## Calls -/

/-- Where declarations are read from: its name, and what it holds up to an error
if one ends it. -/
structure Source extends FileSystem.Opened where
  name : String
  deriving DecidableEq, Repr

def Source.text (s : Source) : Except String (List Char) :=
  match s.torn with
  | some e => .error e.line
  | none => (Text.decode s.bytes).mapError (·.message)

/-- A command with its operands. -/
inductive Call where
  | fast (states : String)
  | advanced (states transitions : String) (showMapping : Bool)
  | inline (source : Source)
  | states (text : String)
  | config
  deriving DecidableEq, Repr

namespace Call

def misused {α : Type} (c : Command) (m : Misuse) : Except Ending α := .error (.misuse (some c) m)

/-- The source that an operand names. A dash names the standard input. -/
def openSource (fs : FileSystem) (stdin : Text.Bytes) (name : String) : Except Ending Source :=
  if name = "-" then .ok { name := "<stdin>", bytes := stdin }
  else
    match fs.openSpelled name with
    | .ok f => .ok { f with name }
    | .error .nulInside => .error (.failed Errno.nulInside.text)
    | .error cause => misused .inline (.unreadable name cause)

def closed (c : Command) (call : Call) (extra : List String) : Except Ending Call :=
  if extra = [] then .ok call else misused c (.extraOperands extra)

/-- The call of a command that some switches and operands spell. -/
def ofArguments (fs : FileSystem) (stdin : Text.Bytes) (c : Command) (a : Arguments) :
    Except Ending Call :=
  match c, a.operands with
  | .fast, names :: extra => closed c (.fast names) extra
  | .states, names :: extra => closed c (.states names) extra
  | .advanced, names :: pairs :: extra =>
    closed c (.advanced names pairs (Arguments.has .showMapping a.given)) extra
  | .inline, [] => (openSource fs stdin "-").map .inline
  | .inline, source :: extra =>
    (openSource fs stdin source).bind fun s => closed c (.inline s) extra
  | .config, extra => closed c .config extra
  | c, few => misused c (.lacksOperand (c.operands[few.length]?.getD ""))

def read (fs : FileSystem) (stdin : Text.Bytes) (c : Command) (args : List String) :
    Except Ending Call :=
  match Arguments.read c.switches true args with
  | .error m => .error (.misuse (some c) m)
  | .ok a =>
    match asked? (some c) a.given with
    | some e => .error e
    | none => ofArguments fs stdin c a

end Call

end ThreeBlock.CommandLine
