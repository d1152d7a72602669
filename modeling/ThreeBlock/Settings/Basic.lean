-- The settings of the program. They come from a value such as a file
-- holds, then the environment, then the command line; a later source wins
-- where it says something. What a source leaves out stays as it was.
import ThreeBlock.Files.FileSystem
import ThreeBlock.Text.Lowercase
import ThreeBlock.Value
namespace ThreeBlock

/-! ## Settings -/

/-- How the program logs. Both names are in lower case. -/
structure LogSettings where
  level : String := "info"
  format : String := "json"
  deriving DecidableEq, Repr, Inhabited

/-- How the program works. -/
structure Settings where
  strict : Bool := false
  stateMap : Bool := false
  logging : LogSettings := {}
  deriving DecidableEq, Repr, Inhabited

/-- Why there are no settings. -/
inductive SettingsError where
  | rootKind (kind : String)
  | loggingKind (kind : String)
  | notSwitch (key shown : String)
  | notFlag (name shown : String)
  | unknownLevel (level : String)
  | unknownFormat (format : String)
  | noFile (path : String)
  | unreadable (cause : String)
  | malformed (cause : String)
  deriving DecidableEq, Repr

/-- Why there are no settings in the end. -/
inductive SettingsStop where
  | error (e : SettingsError)
  | undecodable (e : Text.DecodeError)
  | unreachable (e : Errno) (path : String)
  | abort (a : Abort)
  deriving DecidableEq, Repr

namespace Settings

/-! ## Words -/

def levels : List String := ["debug", "info", "warn", "warning", "error"]

def formats : List String := ["json", "text"]

def onWords : List String := ["1", "true", "yes", "on"]

def offWords : List String := ["0", "false", "no", "off"]

end Settings

namespace SettingsError

def field : SettingsError → String
  | .rootKind _ => "root"
  | .loggingKind _ => "logging"
  | .notSwitch key _ => key
  | .notFlag name _ => name
  | .unknownLevel _ => "logging.level"
  | .unknownFormat _ => "logging.format"
  | .noFile _ => "path"
  | .unreadable _ => "file"
  | .malformed _ => "yaml"

/-- The start of a message about a value that is one of a few words. -/
def oneOf (words : List String) (got : String) : String :=
  "Must be one of " ++ String.intercalate ", " words ++ ", got " ++ got

def message : SettingsError → String
  | .rootKind kind | .loggingKind kind => "Expected a mapping, got " ++ kind
  | .notSwitch _ shown => "Must be true or false, got " ++ shown
  | .notFlag _ shown => "Must be a boolean flag, got " ++ shown
  | .unknownLevel level => oneOf Settings.levels level
  | .unknownFormat format => oneOf Settings.formats format
  | .noFile path => "Configuration file not found: " ++ path
  | .unreadable cause => "Failed to read config file: " ++ cause
  | .malformed cause => "Failed to parse YAML: " ++ cause

/-- What is told of an error: the part it is about, and what is wrong. -/
def told (field message : String) : String := "Config error in '" ++ field ++ "': " ++ message

def text (e : SettingsError) : String := told e.field e.message

end SettingsError

namespace Settings

/-! ## From a value -/

/-- How settings look at what they are read from. -/
structure View (α : Type) where
  kindName : α → String
  isVoid : α → Bool
  truth? : α → Option Bool
  entries? : α → Option (String → Option α)
  shown : α → Except Abort String
  word : α → Except Abort String

/-- A switch of a map: off when it is missing, an error unless it is true or
false. -/
def readSwitch {α : Type} (look : View α) (get? : String → Option α) (key : String) :
    Except SettingsStop Bool :=
  match get? key with
  | none => .ok false
  | some v =>
    match look.truth? v with
    | some b => .ok b
    | none =>
      match look.shown v with
      | .ok shown => .error (.error (.notSwitch key shown))
      | .error a => .error (.abort a)

/-- The part of a map about logging; a void one counts as empty. -/
def readLogging {α : Type} (look : View α) (get? : String → Option α) :
    Except SettingsStop (String → Option α) :=
  match get? "logging" with
  | none => .ok fun _ => none
  | some v =>
    if look.isVoid v then .ok fun _ => none
    else
      match look.entries? v with
      | some inner => .ok inner
      | none => .error (.error (.loggingKind (look.kindName v)))

/-- A word of a map in lower case, whatever kind of value it is. -/
def readWord {α : Type} (look : View α) (get? : String → Option α) (key fallback : String) :
    Except SettingsStop String :=
  match get? key with
  | none => .ok fallback
  | some v => (look.word v).mapError .abort

/-- The settings in what is looked at, or the first thing wrong with it. -/
def View.settings {α : Type} (look : View α) (root : α) : Except SettingsStop Settings :=
  match look.entries? root with
  | none => .error (.error (.rootKind (look.kindName root)))
  | some get? => do
    let inner ← readLogging look get?
    let strict ← readSwitch look get? "strict"
    let stateMap ← readSwitch look get? "include_state_map"
    let level ← readWord look inner "level" "info"
    let format ← readWord look inner "format" "json"
    return ⟨strict, stateMap, level, format⟩

def valueView : View Value where
  kindName := Value.kindName
  isVoid := Value.isVoid
  truth? v := match v with | .bool b => some b | _ => none
  entries? v := match v with
    | .map entries => some fun key => Value.lookup? key entries
    | _ => none
  shown := Value.shownBy Value.display
  word := Value.shownBy Value.word

def ofValue (v : Value) : Except SettingsStop Settings := valueView.settings v

def toValue (s : Settings) : Value :=
  .map [(.text "strict", .bool s.strict), (.text "include_state_map", .bool s.stateMap),
    (.text "logging",
      .map [(.text "level", .text s.logging.level), (.text "format", .text s.logging.format)])]

/-! ## Overrides -/

/-- What a source says about the settings. -/
structure Overrides where
  strict : Option Bool := none
  stateMap : Option Bool := none
  level : Option String := none
  format : Option String := none
  deriving DecidableEq, Repr, Inhabited

/-- The first of two words, unless it is missing or empty. -/
def wordOr (word : Option String) (fallback : String) : String :=
  match word with
  | none => fallback
  | some w => if w = "" then fallback else w

/-- Settings with what a source says in place of what they said. -/
def override (s : Settings) (o : Overrides) : Settings :=
  ⟨o.strict.getD s.strict, o.stateMap.getD s.stateMap,
    Text.lowercase (wordOr o.level s.logging.level),
    Text.lowercase (wordOr o.format s.logging.format)⟩

/-! ## The environment -/

abbrev Environment := List (String × String)

def flagWord (value : String) : String :=
  Text.lowercase (String.ofList (Text.trim value.toList))

/-- What a variable says about a switch. A variable that is not set says
nothing. -/
def readFlag (env : Environment) (name : String) : Except SettingsError (Option Bool) :=
  match env.lookup name with
  | none => .ok none
  | some value =>
    if flagWord value ∈ onWords then .ok (some true)
    else if flagWord value ∈ offWords then .ok (some false)
    else .error (.notFlag name (Text.quoted value))

def variableNames : List String := ["SVFSM_STRICT", "SVFSM_STATE_MAP", "SVFSM_LOG_LEVEL"]

def readEnvironment (env : Environment) : Except SettingsError Overrides := do
  let strict ← readFlag env "SVFSM_STRICT"
  let stateMap ← readFlag env "SVFSM_STATE_MAP"
  return { strict, stateMap, level := env.lookup "SVFSM_LOG_LEVEL" }

/-- Settings with what an environment says in place of what they said. -/
def withEnvironment (s : Settings) (env : Environment) : Except SettingsError Settings :=
  (readEnvironment env).map s.override

/-! ## The check -/

/-- The settings themselves when both their words are known, or else the
first that is not. -/
def checked (s : Settings) : Except SettingsError Settings :=
  if s.logging.level ∉ levels then .error (.unknownLevel s.logging.level)
  else if s.logging.format ∉ formats then .error (.unknownFormat s.logging.format)
  else .ok s

end Settings

end ThreeBlock
