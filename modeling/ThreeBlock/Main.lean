-- The program: it looks at what its arguments reach, runs, and puts into
-- place what the run leads to.
import ThreeBlock.CommandLine.Reach
namespace ThreeBlock.CommandLine

def systemPath (l : Place) : String :=
  match l.base with
  | .root => "/" ++ String.intercalate "/" l.names
  | .working above => String.intercalate "/" ("." :: List.replicate above ".." ++ l.names)

def directoryCode : UInt32 := Errno.isDirectory.code.toUInt32

/-- What keeps a file from being read that is denied. -/
def barAt (l : Place) : IO Bar := do
  try
    discard (IO.FS.realPath (systemPath l))
    return .shut .denied
  catch _ => return .unseen .denied

/-- The file system with what is found at a place. -/
def lookAt (fs : FileSystem) (l : Place) : IO FileSystem := do
  try
    let bytes ← IO.FS.readBinFile (systemPath l)
    return fs.put l bytes.toList
  catch
    | .inappropriateType _ code _ =>
      return if code = directoryCode then fs.addDirectory l else fs
    | .permissionDenied _ _ _ =>
      let bar ← barAt l
      return { fs.put l [] with bars := (l, bar) :: fs.bars }
    | _ => return fs

def lookAtEnvironment : IO Settings.Environment :=
  Settings.variableNames.filterMapM fun name => do
    return (← IO.getEnv name).map fun value => (name, value)

def freshName : IO String := do
  let bytes ← IO.getRandomBytes 4
  return String.ofList (bytes.toList.flatMap fun b => Text.hexDigits 2 b.toNat)

/-- Put a file into place in one move. -/
def putIntoPlace (tag : String) (l : Place) (bytes : Text.Bytes) : IO Unit := do
  let staging : Place :=
    { l with names := l.names.dropLast ++ [AtomicWrite.stagingName tag { steps := l.names }] }
  try
    IO.FS.writeBinFile (systemPath staging) (ByteArray.mk bytes.toArray)
    IO.FS.rename (systemPath staging) (systemPath l)
  catch e =>
    try IO.FS.removeFile (systemPath staging) catch _ => pure ()
    throw e

/-- Make what a run made: directories, then files. -/
def settle (tag : String) (before after : FileSystem) : IO Unit := do
  for l in after.directories.reverse do
    unless before.directories.contains l do IO.FS.createDirAll (systemPath l)
  for (l, bytes) in after.files do
    unless before.file? l = some bytes do putIntoPlace tag l bytes

/-- Tell what a run leads to. -/
def report (ended : Ended) : IO UInt32 := do
  IO.eprint ended.logText
  IO.eprint ended.stderr
  IO.print ended.stdout
  return ended.exitCode.toUInt32

/-- Run with some arguments. When what the run made cannot be put into place,
the run is one that met this on the way. -/
def perform (args : List String) : IO UInt32 := do
  let reach := Reach.ofArguments args
  let files ← reach.places.foldlM lookAt {}
  let stdin ← if reach.stdin then (← IO.getStdin).readBinToEnd else pure ByteArray.empty
  let tag ← freshName
  let s : Surroundings :=
    { environment := ← lookAtEnvironment, stdin := stdin.toList, files, tags := [tag],
      made := ← freshName }
  let ended := run s args
  let trouble ← try
      settle tag files ended.files
      pure none
    catch e => pure (some e.toString)
  report (if trouble.isNone then ended else run { s with trouble := fun _ => trouble } args)

end ThreeBlock.CommandLine

def main (args : List String) : IO UInt32 := ThreeBlock.CommandLine.perform args
