import PlcModule.Path

/-! The arguments of the command line: a task, and options before and after its name. -/
namespace PlcModule.CommandLine

inductive Task where
  | build
  | generate
  | hash
  | resetHash
  | clean
  deriving DecidableEq, Repr

namespace Task

def all : List Task :=
  [build, generate, hash, resetHash, clean]

def name : Task → String
  | build => "build"
  | generate => "generate"
  | hash => "hash"
  | resetHash => "reset-hash"
  | clean => "clean"

def ofName? (s : String) : Option Task :=
  all.find? fun t => t.name == s

theorem ofName?_name (t : Task) : ofName? t.name = some t := by
  cases t <;> decide

end Task

/-- What the arguments ask for. -/
inductive Request where
  | perform (task : Task) (project : Path) (verbose : Bool)
  | version (task : Option Task)
  | help
  /-- The arguments make no sense together. -/
  | unusable
  deriving DecidableEq, Repr

/-- Options that were given at one level: before the task, or after it. -/
structure Options where
  project : Option Path
  verbose : Bool
  deriving DecidableEq, Repr

def Options.none : Options :=
  ⟨.none, false⟩

def Options.setProject (o : Options) (value : String) : Option Options :=
  if o.project.isSome || value.isEmpty then .none else some { o with project := some ⟨value⟩ }

def Options.setVerbose (o : Options) : Option Options :=
  if o.verbose then .none else some { o with verbose := true }

/-- Whether an argument can be the value of an option that stands before it. -/
def isValue (arg : String) : Bool :=
  arg = "-" || !arg.startsWith "-"

/-- The value of an option that is given in one argument with it. -/
def valueIn (option arg : String) : Option String :=
  let start := (option ++ "=").toList
  if start.isPrefixOf arg.toList then some (String.ofList (arg.toList.drop start.length)) else none

/-- Short options, several in one argument. Only a build can be verbose. -/
def shortOptions (task : Option Task) (o : Options) : List Char → Except Request Options
  | [] => .ok o
  | c :: rest =>
    if c = 'V' then .error (.version task)
    else if c = 'h' then .error .help
    else if c = 'v' && task = some .build then
      match o.setVerbose with
      | some o => shortOptions task o rest
      | none => .error .unusable
    else .error .unusable

/-- What has been read so far: the task, and the options in front of it and after it. -/
structure Levels where
  task : Option Task
  outer : Options
  inner : Options
  deriving DecidableEq, Repr

namespace Levels

/-- The options of the level that is being read. -/
def here (l : Levels) : Options :=
  if l.task.isNone then l.outer else l.inner

def withHere (l : Levels) (o : Options) : Levels :=
  if l.task.isNone then { l with outer := o } else { l with inner := o }

/-- The project file that is meant: the one named after the task before the one named in front
of it, and the usual one if none is named. -/
def project (l : Levels) : Path :=
  (l.inner.project <|> l.outer.project).getD ⟨"plcmod.toml"⟩

def request (l : Levels) : Request :=
  match l.task with
  | some t => .perform t l.project l.inner.verbose
  | none => .unusable

/-- The levels after an argument that takes no value from the next one. -/
def readOne (l : Levels) (arg : String) : Except Request Levels :=
  let change (o : Option Options) : Except Request Levels :=
    match o with
    | some o => .ok (l.withHere o)
    | none => .error .unusable
  if arg = "--version" then .error (.version l.task)
  else if arg = "--help" then .error .help
  else if arg = "--verbose" then
    if l.task = some .build then change l.here.setVerbose else .error .unusable
  else match valueIn "--project" arg with
    | some value => change (l.here.setProject value)
    | none =>
      if !isValue arg then
        if arg.startsWith "--" then .error .unusable
        else (shortOptions l.task l.here (arg.toList.drop 1)).map l.withHere
      else if l.task.isSome then .error .unusable
      else match Task.ofName? arg with
        | some t => .ok { l with task := some t }
        | none => .error (if arg = "help" then .help else .unusable)

/-- Reads the arguments from the left. -/
def read (l : Levels) : List String → Request
  | [] => l.request
  | "--project" :: value :: rest =>
    match if isValue value then l.here.setProject value else none with
    | some o => (l.withHere o).read rest
    | none => .unusable
  | ["--project"] => .unusable
  | ["--"] => l.request
  | "--" :: _ => .unusable
  | arg :: rest =>
    match l.readOne arg with
    | .ok l => l.read rest
    | .error request => request

end Levels

def Request.ofArguments (args : List String) : Request :=
  Levels.read ⟨none, .none, .none⟩ args

end PlcModule.CommandLine
