-- The settings in effect: from a file, if there is one, then the
-- environment, then a check of the words. Files are read by a reader of
-- documents. A file that is no text, or that holds a value that cannot be
-- read, stops the run, and so does a path that cannot be followed.
import ThreeBlock.Settings.Basic
import ThreeBlock.Text.Pieces
import ThreeBlock.Yaml.Reader
namespace ThreeBlock

namespace Settings

/-- The file that settings come from when none is named. -/
def usualFile : Path := Path.ofString "svfsm.yaml"

/-! ## Documents -/

/-- The parts of a document as settings look at them, when at most `deepest` of
them are spelled inside each other. -/
def partView (deepest : Nat) (wholes : Yaml.Wholes) : View Yaml.Part where
  kindName := Yaml.Part.kindName wholes
  isVoid := Yaml.Part.isVoid wholes
  truth? p := match p with | .plain (.bool b) => some b | _ => none
  entries? := Yaml.Part.entries? wholes
  shown p := (p.spell deepest wholes).map Value.display
  word p := (p.spell deepest wholes).map Value.word

/-- The settings in a document. A void one stands for an empty map. -/
def ofContent (deepest : Nat) (c : Yaml.Content) : Except SettingsStop Settings :=
  if c.root.isVoid c.wholes then .ok {} else (partView deepest c.wholes).settings c.root

/-! ## Files -/

/-- Why a text that breaks off gives no document, when its reader says just
that. -/
def stopAt : Text.TextBreak Errno → SettingsStop
  | .undecodable e => .undecodable e
  | .cut e => .error (.unreadable e.line)

def documentOf {broken : Bool} : Yaml.Reading broken → (broken = true → SettingsStop) →
    Except SettingsStop Yaml.Content
  | .content c, _ => .ok c
  | .malformed message, _ => .error (.error (.malformed message))
  | .aborted a, _ => .error (.abort a)
  | .torn, stop => .error (stop rfl)

def documentIn (reader : Yaml.Reader) (f : FileSystem.Opened) :
    Except SettingsStop Yaml.Content :=
  let (pieces, broken) := Text.piecesOf f.bytes f.torn
  documentOf (reader pieces broken.isSome) fun h => stopAt (broken.get h)

def probe (fs : FileSystem) (p : Path) : Except SettingsStop Bool :=
  (fs.isThere p).mapError fun e => .unreachable e p.text

/-- What loading starts from, besides files and variables. -/
structure Means where
  reader : Yaml.Reader
  deepest : Nat

def ofFile (m : Means) (fs : FileSystem) (p : Path) : Except SettingsStop Settings := do
  if ← probe fs p then
    match fs.openPath p with
    | .error e => .error (.error (.unreadable (e.about p.text)))
    | .ok f => do ofContent m.deepest (← documentIn m.reader f)
  else .error (.error (.noFile p.text))

/-- The settings in the file named, else in the usual file, else the
defaults. -/
def ofFiles (m : Means) (fs : FileSystem) (named : Option Path) :
    Except SettingsStop Settings :=
  match named with
  | some p => ofFile m fs p
  | none => do if ← probe fs usualFile then ofFile m fs usualFile else .ok {}

/-- Settings with what an environment says, checked. -/
def settle (env : Environment) (s : Settings) : Except SettingsStop Settings :=
  ((s.withEnvironment env).bind checked).mapError .error

def load (m : Means) (fs : FileSystem) (env : Environment) (named : Option Path) :
    Except SettingsStop Settings :=
  ofFiles m fs named >>= settle env

end Settings

end ThreeBlock
