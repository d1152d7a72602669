-- The words of the command line: the commands of the program, and the
-- switches that go with the program and with each command.
import ThreeBlock.Text.Quoted
namespace ThreeBlock.CommandLine

/-! ## Commands -/

/-- What the program can be told to do. -/
inductive Command where
  | fast
  /-- Generate from states and pairs of positions. -/
  | advanced
  /-- Generate from declarations. -/
  | inline
  | states
  | config
  deriving DecidableEq, Repr

/-! ## Switches -/

/-- A switch: it changes how the program works, and stands in front of or
among the operands. -/
inductive Switch where
  | config
  | output
  | json
  | strict
  | noStrict
  | stateMap
  | noStateMap
  | logLevel
  | logFormat
  | version
  | help
  | showMapping
  deriving DecidableEq, Repr

namespace Switch

def name : Switch → String
  | .config => "--config"
  | .output => "--output"
  | .json => "--json"
  | .strict => "--strict"
  | .noStrict => "--no-strict"
  | .stateMap => "--state-map"
  | .noStateMap => "--no-state-map"
  | .logLevel => "--log-level"
  | .logFormat => "--log-format"
  | .version => "--version"
  | .help => "--help"
  | .showMapping => "--show-mapping"

/-- The letter that stands for a switch, if there is one. -/
def letter? : Switch → Option Char
  | .output => some 'o'
  | _ => none

def takesValue : Switch → Bool
  | .config | .output | .logLevel | .logFormat => true
  | _ => false

def letterName (c : Char) : String := String.ofList ['-', c]

def hint (s : Switch) : String :=
  let names := s.name :: (s.letter?.map letterName).toList
  String.intercalate " / " (names.map fun n => "'" ++ n ++ "'")

/-- The words that the value of a switch is one of; none when it may be any
text. -/
def choices : Switch → List String
  | .logLevel => ["debug", "info", "warn", "error"]
  | .logFormat => ["json", "text"]
  | _ => []

def ofProgram : List Switch :=
  [.config, .output, .json, .strict, .noStrict, .stateMap, .noStateMap, .logLevel, .logFormat,
    .version, .help]

end Switch

namespace Command

def name : Command → String
  | .fast => "fast"
  | .advanced => "advanced"
  | .inline => "inline"
  | .states => "states"
  | .config => "config"

def all : List Command := [.fast, .advanced, .inline, .states, .config]

def ofName? (s : String) : Option Command := all.find? fun c => c.name = s

def switches : Command → List Switch
  | .advanced => [.showMapping, .help]
  | _ => [.help]

/-- The operands of a command; one that may be left out is in brackets. -/
def operands : Command → List String
  | .fast | .states => ["STATES"]
  | .advanced => ["STATES", "TRANSITIONS"]
  | .inline => ["[SOURCE]"]
  | .config => []

end Command

end ThreeBlock.CommandLine
