import PlcModule.CommandLine.Duration
import PlcModule.CommandLine.Run
import PlcModule.FileTree.Difference
import PlcModule.FileTree.Seed
import PlcModule.Host.Runner

/-! The command line as a program. It takes in the files below the working directory, runs the
task on them, and makes the changes that the task has made. -/
namespace PlcModule.CommandLine

/-- A file with a first line that names an interpreter counts as executable. -/
def entryOf (content : ByteArray) : Entry :=
  .file content ((Host.interpreter? (Host.Octets.ofBytes (content.extract 0 Host.headLength))).isSome)

/-- What is at a route on the disk, and below it. -/
partial def snapshot (route : Route) : IO (List (Route × Entry)) := do
  let here := route.foldl (fun p name => p / name) ((← IO.currentDir) / "/")
  if ← here.isDir then
    let mut entries := [(route, Entry.directory)]
    for child in ← here.readDir do
      entries := entries ++ (← snapshot (route ++ [child.fileName]))
    return entries
  else
    try
      return [(route, entryOf (← IO.FS.readBinFile here))]
    catch _ =>
      return []

def absolute (route : Route) : String :=
  "/" ++ "/".intercalate route

def apply : Change → IO Unit
  | .removeFile route => IO.FS.removeFile (absolute route)
  | .removeDirectory route => IO.FS.removeDir (absolute route)
  | .makeDirectory route => IO.FS.createDir (absolute route)
  | .writeFile route content => IO.FS.writeBinFile (absolute route) content

/-- The directories on the way to a route. -/
def ancestors (route : Route) : List (Route × Entry) :=
  (List.range route.length).map fun n => (route.take n, .directory)

/-- What stands for the time that a build took, until the time is known. -/
def elapsedMark : String := "\x00elapsed\x00"

def perform (args : List String) : IO UInt32 := do
  let cwd := FileTree.pathNames ⟨(← IO.currentDir).toString⟩
  let entries := Host.installedEntries ++ ancestors cwd ++ (← snapshot cwd)
  let before := FileTree.ofEntries cwd entries
  let style := Style.choose (← IO.getEnv "CLICOLOR_FORCE") (← IO.getEnv "NO_COLOR")
    (← IO.getEnv "CLICOLOR") (← (← IO.getStdout).isTty)
  let start ← IO.monoNanosNow
  let outcome ← IO.lazyPure fun _ => Setting.run ⟨Host.runner, style, elapsedMark⟩ args before
  let elapsed := durationText ((← IO.monoNanosNow) - start)
  for change in before.changes outcome.tree do
    apply change
  IO.print (outcome.stdout.replace elapsedMark elapsed)
  IO.eprint outcome.stderr
  return UInt32.ofNat outcome.code

end PlcModule.CommandLine

def main (args : List String) : IO UInt32 :=
  PlcModule.CommandLine.perform args
