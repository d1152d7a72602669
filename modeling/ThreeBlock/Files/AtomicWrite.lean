-- Writing a file as a whole or not at all. The text goes to a staging file
-- beside the target, which then takes the target's place in one move. When
-- anything goes wrong before that, the staging file is discarded and the
-- target is as it was.
import ThreeBlock.Files.FileSystem
import ThreeBlock.Limits
import ThreeBlock.Text.Encoding
import ThreeBlock.Trace
namespace ThreeBlock

/-! ## What is written -/

/-- One step of filling the staging file: a text is written, someone takes the
file away, or the writer gives up for a reason. -/
inductive FillStep where
  | write (text : String)
  | steal
  | fail (reason : String)
  deriving DecidableEq, Repr

/-- A file to be written. -/
structure AtomicWrite where
  target : Path
  steps : List FillStep
  encoding : String := "utf-8"
  /-- What the name of the encoding stands for; none if it is not known. -/
  codec : Option Text.Codec := (Text.Encoding.ofName? encoding).map Text.Encoding.codec

/-! ## What is met on the way -/

/-- The stages at which something outside may go wrong. -/
inductive Stage where
  | parents
  | directory (p : Path)
  | staging
  /-- The filling, at a step counted from 0. -/
  | filling (step : Nat)
  | closing
  | replacing
  deriving DecidableEq, Repr

namespace AtomicWrite

/-- What a write finds outside: the tags for staging files in the order in which
they are tried, and what goes wrong at each stage. -/
structure Conditions where
  tags : List String
  trouble : Stage → Option String := fun _ => none
  /-- The paths of the bases of places, from the root of everything. -/
  absolute : Base → String := fun _ => ""
  limits : Limits := {}

/-! ## Staging files -/

/-- The name of a staging file, with `tag` to tell it from others. -/
def stagingName (tag : String) (p : Path) : String := "." ++ p.name ++ "." ++ tag ++ ".tmp"

def Conditions.pathOf (c : Conditions) (l : Place) : String :=
  c.absolute l.base ++ String.join (l.names.map ("/" ++ ·))

/-- The place of a staging file in a directory: that of the first tag that is
free. A name or path that is too long ends the search. -/
def stagingPlace (c : Conditions) (p : Path) (directory : Place) (fs : FileSystem) :
    List String → Except String Place
  | [] => .error ((Errno.other 17 "No usable temporary file name found").line)
  | tag :: tags =>
    let name := stagingName tag p
    let l := directory.child name
    if FileSystem.longestName < name.utf8ByteSize ||
        FileSystem.pathLimit ≤ (c.pathOf l).utf8ByteSize then
      .error (Errno.nameTooLong.about (c.pathOf l))
    else if (fs.file? l).isSome || fs.isDirectory l then stagingPlace c p directory fs tags
    else .ok l

/-! ## Filling -/

/-- The file system with more bytes in the staging file; a staging file taken
away takes no notice. -/
def append (fs : FileSystem) (staging : Place) (bytes : Text.Bytes) : FileSystem :=
  match fs.file? staging with
  | some held => fs.put staging (held ++ bytes)
  | none => fs

/-- Take the filling steps behind the texts that were written. When one goes
wrong, its reason comes with the file system reached. -/
def fill (c : Conditions) (codec : Text.Codec) (staging : Place) :
    Nat → List String → List FillStep → FileSystem → Except (FileSystem × String) FileSystem
  | _, _, [], fs => .ok fs
  | next, earlier, s :: ss, fs =>
    match c.trouble (.filling next), s with
    | some reason, _ => .error (fs, reason)
    | none, .fail reason => .error (fs, reason)
    | none, .steal => fill c codec staging (next + 1) earlier ss (fs.remove staging)
    | none, .write text =>
      match codec.next earlier text with
      | .error reason => .error (fs, reason)
      | .ok bytes =>
        fill c codec staging (next + 1) (earlier ++ [text]) ss (append fs staging bytes)

/-- Close the staging file. When that goes wrong, it is what is told, also
behind a filling that went wrong. -/
def close (c : Conditions) :
    Except (FileSystem × String) FileSystem → Except (FileSystem × String) FileSystem
  | .ok fs => (c.trouble .closing).elim (.ok fs) fun reason => .error (fs, reason)
  | .error (fs, reason) => .error (fs, (c.trouble .closing).getD reason)

/-! ## Replacing -/

/-- Move the staging file to the place of the target in their directory. -/
def move (fs : FileSystem) (directory staging : Place) (p : Path) : Except Errno FileSystem :=
  match FileSystem.usable p.text with
  | .error e => .error e
  | .ok _ =>
    if p.steps = [] || p.name = ".." then .error .busy
    else
      match fs.file? staging with
      | none => .error .notFound
      | some bytes =>
        let l := directory.child p.name
        if fs.isDirectory l then .error .isDirectory else .ok ((fs.remove staging).put l bytes)

/-! ## The whole -/

/-- Fill the staging file, close it and move it to the target. When that goes
wrong, the staging file is discarded. -/
def stage (w : AtomicWrite) (c : Conditions) (codec : Text.Codec) (directory staging : Place)
    (fs : FileSystem) : Except (FileSystem × String) FileSystem :=
  match close c (fill c codec staging 0 [] w.steps (fs.put staging [])) with
  | .error (fs, reason) => .error (fs.remove staging, reason)
  | .ok fs =>
    match c.trouble .replacing with
    | some reason => .error (fs.remove staging, reason)
    | none =>
      match move fs directory staging w.target with
      | .ok fs => .ok fs
      | .error e => .error (fs.remove staging, e.between (c.pathOf staging) w.target.text)

/-- Make a staging file in the directory of the target, and go on from
there. -/
def openStaging (w : AtomicWrite) (c : Conditions) (directory : Place) (fs : FileSystem) :
    Except (FileSystem × String) FileSystem :=
  if w.encoding.toList.contains '\x00' then .error (fs, "embedded null character")
  else if w.target.name.toList.contains '\x00' then .error (fs, Errno.nulInside.text)
  else
    match stagingPlace c w.target directory fs c.tags with
    | .error reason => .error (fs, reason)
    | .ok staging =>
      match w.codec with
      | none => .error (fs, "unknown encoding: " ++ w.encoding)
      | some codec => w.stage c codec directory staging fs

/-- Write the file: the directories above the target are made first. -/
def attempt (w : AtomicWrite) (c : Conditions) (fs : FileSystem) :
    Except (FileSystem × String) FileSystem :=
  match c.trouble .parents with
  | some reason => .error (fs, reason)
  | none =>
    match fs.ensureDirectories (c.trouble ∘ .directory) c.limits.directories w.target.parent with
    | (fs, .error reason) => .error (fs, reason)
    | (fs, .ok directory) =>
      match c.trouble .staging with
      | some reason => .error (fs, reason)
      | none => w.openStaging c directory fs

/-- What writing a file leads to. -/
structure Result where
  files : FileSystem
  failure : Option String
  deriving Inhabited

namespace Result

def message (target : Path) (reason : String) : String :=
  "Cannot write " ++ target.text ++ ": " ++ reason

end Result

/-- The event that tells how writing a file went. -/
def event (w : AtomicWrite) (failure : Option String) : Event :=
  let path := ("path", Value.text w.target.text)
  match failure with
  | none => ⟨.debug, "utils.atomic", "output_replaced", [path]⟩
  | some reason => ⟨.error, "utils.atomic", "output_write_failed", [path, ("error", .text reason)]⟩

/-- What a write leads to. -/
def result (w : AtomicWrite) (c : Conditions) (fs : FileSystem) : Result :=
  match w.attempt c fs with
  | .ok fs => ⟨fs, none⟩
  | .error (fs, reason) => ⟨fs, some reason⟩

/-- Write a file, with the log of the writing. -/
def run (w : AtomicWrite) (c : Conditions) (fs : FileSystem) : Logged Result := do
  let r := w.result c fs
  Logged.tell (w.event r.failure)
  return r

def ofText (target : Path) (text : String) : AtomicWrite := { target, steps := [.write text] }

end AtomicWrite

end ThreeBlock
