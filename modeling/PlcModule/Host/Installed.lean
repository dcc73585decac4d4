import PlcModule.FileTree.Seed
import PlcModule.Host.Shell.Script
import PlcModule.Host.Utility.Columns
import PlcModule.Host.Utility.Compare
import PlcModule.Host.Utility.Edit
import PlcModule.Host.Utility.Exchange
import PlcModule.Host.Utility.Expression
import PlcModule.Host.Utility.Launch
import PlcModule.Host.Utility.Search
import PlcModule.Host.Utility.Streams

/-! What is installed on a host: its programs, and the files that stand for them beside the
devices. -/
namespace PlcModule.Host

def answer (code : Nat) : Program := fun _ => return code

/-- The programs of a host, which start others through what is handed in. -/
def programs (exec : Exec) (start : Start) : List (String × Program) := [
  ("sh", Shell.program exec), ("dash", Shell.program exec),
  ("true", answer 0), ("false", answer 1), ("sync", answer 0), ("chown", answer 0),
  ("chgrp", answer 0), ("stty", answer 0),
  ("echo", Printing.echoProgram), ("printf", Printing.printfProgram),
  ("test", Condition.test), ("[", Condition.bracket), ("expr", Expression.expr),
  ("cat", Streams.cat), ("head", Streams.head), ("tail", Streams.tail), ("tac", Streams.tac),
  ("tee", Streams.tee), ("wc", Streams.wc), ("yes", Streams.yes), ("tr", Exchange.tr),
  ("sort", Columns.sort), ("uniq", Columns.uniq), ("cut", Columns.cut), ("paste", Columns.paste),
  ("rev", Columns.rev), ("nl", Columns.nl), ("fold", Columns.fold),
  ("cmp", Compare.cmp), ("diff", Compare.diff), ("md5sum", Compare.md5sum), ("od", Compare.od),
  ("base64", Compare.base64), ("seq", Compare.seq), ("sleep", Compare.sleep),
  ("grep", Search.grep none), ("egrep", Search.grep (some 'E')), ("fgrep", Search.grep (some 'F')),
  ("sed", Edit.sed),
  ("cp", Files.cp), ("mv", Files.mv), ("ln", Files.ln), ("rm", Files.rm),
  ("mkdir", Files.mkdir), ("rmdir", Files.rmdir), ("touch", Files.touch), ("chmod", Files.chmod), ("ls", Files.ls),
  ("stat", Files.stat), ("truncate", Files.truncate), ("install", Files.install),
  ("dd", Files.dd), ("mktemp", Files.makeTemporary),
  ("basename", Names.baseNameProgram), ("dirname", Names.dirNameProgram),
  ("realpath", Names.realPath), ("readlink", Names.readLink), ("pwd", Names.workingDirectory),
  ("env", Launch.env start), ("printenv", Launch.printEnv), ("nice", Launch.nice start),
  ("nohup", Launch.nohup start), ("timeout", Launch.timeout start),
  ("xargs", Launch.xargs start), ("find", Launch.find start), ("kill", Launch.kill),
  ("tty", Launch.tty), ("id", Launch.id), ("uname", Launch.uname),
  ("whoami", Launch.fixed "root"), ("logname", Launch.fixed "root"),
  ("nproc", Launch.fixed "1"), ("arch", Launch.fixed "x86_64"),
  ("hostname", Launch.fixed "localhost"), ("date", Launch.fixed "Thu Jan  1 00:00:00 UTC 1970")]

def programNames : List String :=
  (programs (fun _ _ _ _ => .error .notFound) (fun _ _ _ => .error .notFound)).map Prod.fst

/-- What the file of a program begins with. -/
def binaryMark : String := "\x7fELF"

/-- A program as a file. -/
def binary (name : String) : Entry :=
  .file (Octets.toBytes (binaryMark ++ name ++ "\n")) true

/-- The name of the program that a file's bytes stand for. -/
def binaryName? (content : String) : Option String :=
  if content.startsWith binaryMark then
    some (String.ofList ((content.drop binaryMark.length).toString.toList.takeWhile (· ≠ '\n')))
  else none

def programDirectories : List Route :=
  [["bin"], ["usr", "bin"]]

def installedEntries : List (Route × Entry) :=
  let directories : List Route := [["work"], ["bin"], ["dev"], ["dev", "fd"], ["dev", "shm"], ["etc"],
    ["home"], ["lib"], ["opt"], ["proc"], ["root"], ["sbin"], ["sys"], ["tmp"], ["usr"],
    ["usr", "bin"], ["usr", "lib"], ["usr", "local"], ["usr", "local", "bin"],
    ["usr", "local", "sbin"], ["usr", "sbin"], ["usr", "share"], ["var"], ["var", "tmp"]]
  let devices := ["full", "null", "random", "tty", "urandom", "zero"]
  directories.map (fun l => (l, .directory)) ++ devices.map (fun name => (["dev", name], .device)) ++
    programDirectories.flatMap fun dir => programNames.map fun name => (dir ++ [name], binary name)

/-- The files of a host on which nothing has been done yet. -/
def installedTree : FileTree :=
  .ofEntries ["work"] installedEntries

end PlcModule.Host
