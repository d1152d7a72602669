-- A run of the program: the arguments are read, then the settings, then the
-- command is carried out, and its answer goes where the arguments say. What
-- a run leads to is plain data: the exit code, both outputs, the files, and
-- the log.
import ThreeBlock.CommandLine.Answer
import ThreeBlock.Files.AtomicWrite
import ThreeBlock.Settings.Load
namespace ThreeBlock.CommandLine

/-! ## Before and after -/

/-- What a run starts from, besides the conditions of writing a file: the reader of
settings files, the threshold and the context of the log before the run, and
the name made for a request. -/
structure Surroundings extends AtomicWrite.Conditions where
  environment : Settings.Environment := []
  stdin : Text.Bytes := []
  files : FileSystem := {}
  reader : Yaml.Reader := Yaml.reader limits
  threshold : Level := .warning
  context : Context := {}
  made : String := ""

/-- What a run leaves, its log apart. -/
structure Left where
  exitCode : Nat
  stdout : String := ""
  stderr : String := ""
  /-- How the run logs; none if it ended before that was settled. -/
  logging : Option LogSettings := none
  files : FileSystem

/-- What a run leads to. -/
structure Ended extends Left where
  log : Log

def Surroundings.log (s : Surroundings) : Log :=
  { threshold := s.threshold, context := s.context }

def Surroundings.means (s : Surroundings) : Settings.Means := ⟨s.reader, s.limits.spelling⟩

/-! ## Exit codes -/

def failureCode : Nat := 1

/-- The exit code of misuse. -/
def misuseCode : Nat := 2

def settingsCode : Nat := 30

/-- The exit code of a result that could not be written. -/
def unwrittenCode : Nat := 31

/-! ## Ends -/

def versionNumber : String := "0.1.0"

def Surroundings.left (s : Surroundings) (exitCode : Nat) (stdout stderr : String) : Left :=
  { exitCode, stdout, stderr, files := s.files }

def failedEvent (message : String) : Event := told .error "cli_error" [("error", .text message)]

def Surroundings.fail (s : Surroundings) (message : String) : Logged Left := do
  Logged.tell (failedEvent message)
  return s.left failureCode "" ""

def Ending.ended (s : Surroundings) : Ending → Logged Left
  | .noArguments => return s.left misuseCode "" (usageLine none)
  | .version => return s.left 0 (programName ++ ", version " ++ versionNumber ++ "\n") ""
  | .help c => return s.left 0 (usageLine c) ""
  | .misuse c m => return s.left misuseCode "" (m.page c)
  | .failed message => s.fail message

def noSettings (s : Surroundings) : SettingsStop → Logged Left
  | .error e => return s.left settingsCode "" (errorLine e.text)
  | .undecodable e => s.fail e.message
  | .unreachable e path => s.fail (e.about path)
  | .abort a => s.fail a.message

/-! ## Delivery -/

/-- A result was written to a file. -/
def writtenEvent (target : Path) (text : String) : Event :=
  told .info "output_written" [("path", .text target.text), ("bytes", .int text.length)]

def toFile (s : Surroundings) (note : String) (target : Path) (text : String) : Logged Left := do
  let r ← (AtomicWrite.ofText target text).run s.toConditions s.files
  match r.failure with
  | none => do
    Logged.tell (writtenEvent target text)
    return { exitCode := 0, stderr := note, files := r.files }
  | some reason =>
    return { exitCode := unwrittenCode, files := r.files,
             stderr := note ++ errorLine (AtomicWrite.Result.message target reason) }

def faultEnvelope (f : Fault) : Value :=
  envelope [("status", .text "error"), ("error", .text f.kind), ("message", .text f.message)]

/-- An answer goes where the options say. A product goes to the file named
or to the standard output; a fault never goes to a file. -/
def deliver (s : Surroundings) (o : Options) (a : Answer) : Logged Left :=
  match a.verdict, o.output with
  | .made p, none => return s.left 0 (p.text o.json) a.note
  | .made p, some target => toFile s a.note target (p.text o.json)
  | .shown text, _ => return s.left 0 text a.note
  | .refused f, _ =>
    return if o.json then s.left f.exitCode (Json.page (faultEnvelope f)) a.note
      else s.left f.exitCode "" (a.note ++ errorLine f.message)
  | .failed message, _ => do
    Logged.tell (failedEvent message)
    return s.left failureCode "" a.note

/-! ## The run -/

/-- The settings in effect: those of the files and the environment, with what
the switches say in their place. -/
def effectiveSettings (s : Surroundings) (o : Options) : Except SettingsStop Settings :=
  (Settings.load s.means s.files s.environment o.config).map fun t => t.override o.overrides

/-- Carry out a command under some settings: from then on the run logs as they
say. -/
def carryOut (s : Surroundings) (i : Invocation) (settings : Settings) : Logged Left := do
  Logged.configure (Level.ofName settings.logging.level)
  let left ← match Call.read s.files s.stdin i.command i.arguments with
    | .error e => e.ended s
    | .ok call => do deliver s i.options (← call.answer s.made settings)
  return { left with logging := some settings.logging }

/-- A run of the program with some arguments, with its log. -/
def runLogged (s : Surroundings) (args : List String) : Logged Left :=
  match Invocation.read s.files args with
  | .error e => e.ended s
  | .ok i =>
    match effectiveSettings s i.options with
    | .error e => noSettings s e
    | .ok settings => carryOut s i settings

/-- A run of the program with some arguments. -/
def run (s : Surroundings) (args : List String) : Ended :=
  let (left, log) := (runLogged s args).run s.log
  { left with log }

/-! ## Log text -/

/-- A log line in plain words: each field with its value. -/
def plainLine (l : Line) : String :=
  String.intercalate " " (l.map fun f => f.1 ++ "=" ++ f.2.plain)

def Ended.logText (e : Ended) : String :=
  let inJson := (e.logging.getD {}).format = "json"
  String.join (e.log.lines.map fun l =>
    (if inJson then Json.line (envelope l) else plainLine l) ++ "\n")

end ThreeBlock.CommandLine
