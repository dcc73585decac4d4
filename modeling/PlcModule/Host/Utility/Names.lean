import PlcModule.Host.Devices

/-! The programs that take paths apart and that say where they lead. -/
namespace PlcModule.Host.Names

def dropSlashes (s : String) : String :=
  String.ofList (s.toList.reverse.dropWhile (· = '/')).reverse

/-- The last name of a path, or a slash for the root. -/
def baseName (path : String) : String :=
  match (Text.splitAt '/' (dropSlashes path).toList).getLast? with
  | some name => if name.isEmpty && path.startsWith "/" then "/" else String.ofList name
  | none => path

/-- A path without its last name. -/
def dirName (path : String) : String :=
  let trimmed := dropSlashes path
  if trimmed = "" then if path.startsWith "/" then "/" else "."
  else
    let front := (trimmed.toList.reverse.dropWhile (· ≠ '/')).reverse
    if front.isEmpty then "." else
      let dir := dropSlashes (String.ofList front)
      if dir = "" then "/" else dir

/-- A directory and a name in it. -/
def inside (dir name : String) : String :=
  if dir.endsWith "/" then dir ++ name else dir ++ "/" ++ name

def withoutEnding (name ending : String) : String :=
  if ending ≠ "" && name.endsWith ending && name ≠ ending then
    (name.dropEnd ending.length).toString
  else name

def baseNameProgram : Program := fun args => do
  let g ← Task.options { letters := "az", arguments := "s", strict := true,
                         words := [("multiple", 'a'), ("suffix", 's')] } args
  let many := g.has 'a' || g.has 's'
  match g.operands with
  | [] => Task.misuse 1 "missing operand"
  | path :: rest =>
    if many then
      for p in g.operands do
        Task.sayLine (withoutEnding (baseName p) ((g.value? 's').getD ""))
      return 0
    else match rest with
      | _ :: extra :: _ => Task.misuse 1 ("extra operand " ++ Quoted.word extra)
      | _ =>
        Task.sayLine (withoutEnding (baseName path) (rest.headD ""))
        return 0

def dirNameProgram : Program := fun args => do
  let g ← Task.options { letters := "z" } args
  if g.operands.isEmpty then Task.misuse 1 "missing operand"
  for path in g.operands do
    Task.sayLine (dirName path)
  return 0

/-- The text of a route, as bytes. -/
def routeText (l : Route) : String :=
  "/" ++ "/".intercalate (l.map Octets.encode)

/-- Where a path leads, though its last name may be missing. -/
def resolve (t : FileTree) (mustExist : Bool) (path : String) : Except Fault String :=
  match t.status (Octets.path path) with
  | .ok (l, _) => .ok (routeText l)
  | .error e =>
    if mustExist then .error e
    else match t.locate (Octets.path path) with
      | .ok place => if (t.find? place.route).isSome then .error e else .ok (routeText place.route)
      | .error e => .error e

def realPath : Program := fun args => do
  let g ← Task.options { letters := "esmqzLPE" } args
  if g.operands.isEmpty then Task.misuse 1 "missing operand"
  Task.each g.operands fun path => do
    match ← Task.ask fun t => resolve t (g.has 'e') path with
    | .ok s =>
      Task.sayLine s
      return 0
    | .error e =>
      if !g.has 'q' then Task.complain (Quoted.ifNeeded path ++ ": " ++ reason e)
      return 1

def readLink : Program := fun args => do
  let g ← Task.options { letters := "efmnqsvz" } args
  if g.operands.isEmpty then Task.misuse 1 "missing operand"
  Task.each g.operands fun path => do
    if g.has 'f' || g.has 'e' || g.has 'm' then
      match ← Task.ask fun t => resolve t (g.has 'e') path with
      | .ok s =>
        Task.say (s ++ if g.has 'n' then "" else "\n")
        return 0
      | .error _ => return 1
    else return 1

def workingDirectory : Program := fun _ => do
  Task.sayLine (routeText (← get).tree.workingDirectory)
  return 0

end PlcModule.Host.Names
