-- A file system: directories, and regular files with the bytes that they
-- hold. A path is followed step by step through directories that exist. A
-- file may be barred: then looking at it or reading it fails.
import ThreeBlock.Files.Path
import ThreeBlock.Text.Utf8
namespace ThreeBlock

/-! ## Places -/

/-- Where a place is counted from. -/
inductive Base where
  | root
  | working (above : Nat)
  deriving DecidableEq, Repr

/-- A place in the file system: the names that lead to it from a base. -/
structure Place where
  base : Base := .working 0
  names : List String := []
  deriving DecidableEq, Repr

namespace Place

def child (l : Place) (name : String) : Place := { l with names := l.names ++ [name] }

def up (l : Place) : Place :=
  if l.names ≠ [] then { l with names := l.names.dropLast }
  else
    match l.base with
    | .root => l
    | .working n => { l with base := .working (n + 1) }

def step (l : Place) (s : String) : Place :=
  if Path.isIdle s then l else if s = ".." then l.up else l.child s

def start (root : String) : Place := if root = "" then {} else ⟨.root, []⟩

end Place

/-! ## Errors -/

/-- The errors of the file system. -/
inductive Errno where
  | nulInside
  | notFound
  | denied
  | busy
  | alreadyThere
  | notDirectory
  | isDirectory
  | nameTooLong
  | other (code : Nat) (text : String)
  deriving DecidableEq, Repr

namespace Errno

/-- The number of an error; zero for one that comes before the file system is
asked. -/
def code : Errno → Nat
  | .nulInside => 0
  | .notFound => 2
  | .denied => 13
  | .busy => 16
  | .alreadyThere => 17
  | .notDirectory => 20
  | .isDirectory => 21
  | .nameTooLong => 36
  | .other code _ => code

def text : Errno → String
  | .nulInside => "embedded null byte"
  | .notFound => "No such file or directory"
  | .denied => "Permission denied"
  | .busy => "Device or resource busy"
  | .alreadyThere => "File exists"
  | .notDirectory => "Not a directory"
  | .isDirectory => "Is a directory"
  | .nameTooLong => "File name too long"
  | .other _ text => text

def line (e : Errno) : String :=
  if e = .nulInside then e.text else "[Errno " ++ Text.natText e.code ++ "] " ++ e.text

def about (e : Errno) (path : String) : String :=
  if e = .nulInside then e.text else e.line ++ ": " ++ Text.quoted path

def between (e : Errno) (source target : String) : String :=
  e.about source ++ " -> " ++ Text.quoted target

/-- The numbers of the errors that tell that nothing is at a path. -/
def absences : List Nat := [0, 2, 9, 20, 40]

def isAbsence (e : Errno) : Bool := absences.contains e.code

end Errno

/-! ## The file system -/

/-- What keeps a file from being read: it may not be looked at, it may not be
opened, or its reading breaks off behind some bytes. -/
inductive Bar where
  | unseen (e : Errno)
  | shut (e : Errno)
  | torn (behind : Nat) (e : Errno)
  deriving DecidableEq, Repr

/-- Directories and regular files, and the bars before some of them. The
working directory and those above it are always there. -/
structure FileSystem where
  files : List (Place × Text.Bytes) := []
  directories : List Place := []
  bars : List (Place × Bar) := []
  deriving DecidableEq, Repr, Inhabited

namespace FileSystem

def file? (fs : FileSystem) (l : Place) : Option Text.Bytes := fs.files.lookup l

def isDirectory (fs : FileSystem) (l : Place) : Bool := l.names = [] || fs.directories.contains l

def remove (fs : FileSystem) (l : Place) : FileSystem :=
  { fs with files := fs.files.filter fun e => e.1 ≠ l }

/-- The file system with a file at a place, in place of one that was there. -/
def put (fs : FileSystem) (l : Place) (bytes : Text.Bytes) : FileSystem :=
  { fs with files := (l, bytes) :: (fs.remove l).files }

def addDirectory (fs : FileSystem) (l : Place) : FileSystem :=
  { fs with directories := l :: fs.directories }

/-! ## Following paths -/

/-- The longest name of a file in bytes. -/
def longestName : Nat := 255

/-- The place that steps lead to. All but the last step start from a
directory that is there; the place itself need not exist. -/
def follow (fs : FileSystem) (l : Place) : List String → Except Errno Place
  | [] => .ok l
  | s :: ss =>
    if fs.isDirectory l then
      if longestName < s.utf8ByteSize then .error .nameTooLong
      else follow fs (l.step s) ss
    else if (fs.file? l).isSome then .error .notDirectory
    else .error .notFound

/-- How long a path must be in bytes to be too long. -/
def pathLimit : Nat := 4096

/-- A path as text that can be followed at all: it is not too long, and the
character that ends a path is not inside. -/
def usable (s : String) : Except Errno Unit :=
  if s.toList.contains '\x00' then .error .nulInside
  else if pathLimit ≤ s.utf8ByteSize then .error .nameTooLong
  else .ok ()

def locate (fs : FileSystem) (p : Path) : Except Errno Place := do
  usable p.text
  fs.follow (Place.start p.root) p.steps

/-- The place of a path as it was spelled: a slash at its end asks for a
directory, and an empty path is no path. -/
def locateSpelled (fs : FileSystem) (s : String) : Except Errno Place :=
  if s = "" then .error .notFound
  else do
    usable s
    fs.follow (Place.start (Path.rootOf s)) (Path.pieces s)

def bar? (fs : FileSystem) (l : Place) : Option Bar := fs.bars.lookup l

def isThereAt (fs : FileSystem) (l : Place) : Except Errno Bool :=
  match fs.bar? l with
  | some (.unseen e) => .error e
  | _ => .ok (fs.isDirectory l || (fs.file? l).isSome)

/-- Whether something is at a path. An error other than that nothing is there
leaves it open. -/
def isThere (fs : FileSystem) (p : Path) : Except Errno Bool :=
  match fs.locate p >>= fs.isThereAt with
  | .ok b => .ok b
  | .error e => if e.isAbsence then .ok false else .error e

def readAt (fs : FileSystem) (l : Place) : Except Errno Text.Bytes :=
  if fs.isDirectory l then .error .isDirectory
  else
    match fs.file? l with
    | some bytes => .ok bytes
    | none => .error .notFound

def read (fs : FileSystem) (p : Path) : Except Errno Text.Bytes := fs.locate p >>= fs.readAt

/-- A file that was opened: its bytes, up to an error if one ends them. -/
structure Opened where
  bytes : Text.Bytes
  torn : Option Errno := none
  deriving DecidableEq, Repr

def openAt (fs : FileSystem) (l : Place) : Except Errno Opened :=
  match fs.bar? l with
  | some (.unseen e) | some (.shut e) => .error e
  | some (.torn behind e) => (fs.readAt l).map fun bytes => ⟨bytes.take behind, some e⟩
  | none => (fs.readAt l).map fun bytes => ⟨bytes, none⟩

def openPath (fs : FileSystem) (p : Path) : Except Errno Opened := fs.locate p >>= fs.openAt

def openSpelled (fs : FileSystem) (s : String) : Except Errno Opened :=
  fs.locateSpelled s >>= fs.openAt

/-! ## Making directories -/

/-- What goes wrong for reasons outside where the directory of a path is
made. -/
abbrev Obstacles := Path → Option String

/-- Make the directory of a path at its place; one that is there already will
do. -/
def ensureAt (obstacles : Obstacles) (fs : FileSystem) (p : Path) (l : Place) :
    FileSystem × Except String Place :=
  if fs.isDirectory l then (fs, .ok l)
  else if (fs.file? l).isSome then (fs, .error (Errno.alreadyThere.about p.text))
  else
    match obstacles p with
    | some reason => (fs, .error reason)
    | none => (fs.addDirectory l, .ok l)

/-- What is said when more directories are asked for than are made one inside
the other. -/
def tooDeep : String := "maximum recursion depth exceeded while calling a Python object"

/-- Make a directory and those above it that are missing, the steps of its
path given last to first, and tell its place. The number bounds how many are
missing. What was made stays when something goes wrong further on. -/
def ensureSteps (obstacles : Obstacles) (root : String) :
    Nat → FileSystem → List String → FileSystem × Except String Place
  | 0, fs, _ => (fs, .error tooDeep)
  | n + 1, fs, steps =>
    let p : Path := ⟨root, steps.reverse⟩
    match fs.locate p, steps with
    | .ok l, _ => fs.ensureAt obstacles p l
    | .error .notFound, s :: above =>
      match ensureSteps obstacles root n fs above with
      | (fs, .error e) => (fs, .error e)
      | (fs, .ok l) =>
        match fs.follow l [s] with
        | .ok l => fs.ensureAt obstacles p l
        | .error e => (fs, .error (e.about p.text))
    | .error e, _ => (fs, .error (e.about p.text))

/-- Make a directory and those above it that are missing, `deepest` of them at
most, and tell its place. -/
def ensureDirectories (obstacles : Obstacles) (deepest : Nat) (fs : FileSystem) (p : Path) :
    FileSystem × Except String Place :=
  ensureSteps obstacles p.root deepest fs p.steps.reverse

end FileSystem

end ThreeBlock
