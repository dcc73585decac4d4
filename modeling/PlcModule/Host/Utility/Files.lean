import PlcModule.Host.Utility.Names
import PlcModule.Host.Utility.Streams

/-! The programs that change files. Operands come after the options; each is taken in turn, and
one that goes wrong is told of and passed over. -/
namespace PlcModule.Host.Files

open Names (inside)

def entry? (path : String) : Task (Except Fault (Route × Entry)) :=
  Task.ask fun t => t.status (Octets.path path)

/-- Tells of a change that could not be made. Answers the code for it. -/
def settle (complaint : String) : Option Fault → Task Nat
  | none => return 0
  | some e => do
    Task.complain (complaint ++ ": " ++ reason e)
    return 1

/-! ### Moving and copying -/

/-- How things are sent to a place. -/
structure Sending where
  verbose : Bool
  keepsOthers : Bool
  recursive : Bool
  intoDirectory : Option String
  asFile : Bool

/-- Copies a file's bytes. A new file can be run if the other can. -/
def copyBytes (t : FileTree) (l : Route) (goal : String) : Except Fault FileTree := do
  match t.find? l with
  | some (.file content executable) =>
    let isNew := !t.pathExists (Octets.path goal)
    let u ← t.writeBytes (Octets.path goal) content
    if isNew then u.setExecutable (Octets.path goal) executable else .ok u
  | some .device =>
    t.writeBytes (Octets.path goal) .empty
  | _ => .ok t

/-- The names below a directory, sorted. -/
def names (t : FileTree) (l : Route) : List String :=
  (((t.children l).map fun x => Octets.encode x.1).mergeSort fun a b => a ≤ b)

def copyFile (s : Sending) (source goal : String) (l : Route) : Task Nat := do
  match ← entry? goal with
  | .ok (k, .directory) =>
    Task.complain ("cannot overwrite directory " ++ Quoted.always goal ++ " with non-directory")
    let _ := k
    return 1
  | .ok (k, _) =>
    if k = l then
      Task.complain (Quoted.always source ++ " and " ++ Quoted.always goal ++ " are the same file")
      return 1
    if s.keepsOthers then return 0
  | .error _ => pure ()
  let fault ← Task.change fun t => copyBytes t l goal
  match fault with
  | none =>
    if s.verbose then Task.sayLine (Quoted.always source ++ " -> " ++ Quoted.always goal)
    return 0
  | some e =>
    let e := match e with
      | .system .isADirectory => if goal.endsWith "/" then .system .notADirectory else e
      | _ => e
    settle ("cannot create regular file " ++ Quoted.always goal) (some e)

/-- Copies a directory with all that is below it, to a depth. -/
def copyTree (s : Sending) : Nat → String → String → Task Nat
  | 0, _, _ => return 1
  | n + 1, source, goal => do
    match ← entry? source with
    | .error e => settle ("cannot stat " ++ Quoted.always source) (some e)
    | .ok (l, .directory) =>
      match ← entry? goal with
      | .ok (_, .directory) => pure ()
      | .ok _ =>
        Task.complain ("cannot overwrite non-directory " ++ Quoted.always goal ++ " with directory " ++
          Quoted.always source)
        Task.quit 1
      | .error _ =>
        match ← Task.change fun t => t.makeDirectory (Octets.path goal) with
        | none => if s.verbose then
            Task.sayLine (Quoted.always source ++ " -> " ++ Quoted.always goal)
        | some e =>
          Task.complain ("cannot create directory " ++ Quoted.always goal ++ ": " ++ reason e)
          Task.quit 1
      Task.each (names (← get).tree l) fun name => copyTree s n (inside source name) (inside goal name)
    | .ok (l, _) => copyFile s source goal l

def treeDepth : Nat := 200

def copyOne (s : Sending) (source goal : String) : Task Nat := do
  match ← entry? source with
  | .error e => settle ("cannot stat " ++ Quoted.always source) (some e)
  | .ok (l, .directory) =>
    if !s.recursive then
      Task.complain ("-r not specified; omitting directory " ++ Quoted.always source)
      return 1
    let below ← Task.ask fun t => match t.locate (Octets.path goal) with
      | .ok place => l.isPrefixOf place.route
      | .error _ => false
    if below then
      Task.complain ("cannot copy a directory, " ++ Quoted.always source ++ ", into itself, " ++
        Quoted.always goal)
      return 1
    copyTree s treeDepth source goal
  | .ok (l, _) => copyFile s source goal l

def moveOne (s : Sending) (source goal : String) : Task Nat := do
  match ← entry? source with
  | .error e => settle ("cannot stat " ++ Quoted.always source) (some e)
  | .ok (l, e) =>
    let there ← entry? goal
    let same := match there with
      | .ok (k, _) => k = l
      | .error _ => false
    let isDir := e.isDirectory
    let failed : Option String := match isDir, there with
      | true, .ok (_, .directory) => none
      | true, .ok _ => some ("cannot overwrite non-directory " ++ Quoted.always goal ++
          " with directory " ++ Quoted.always source)
      | false, .ok (_, .directory) => some ("cannot overwrite directory " ++ Quoted.always goal ++
          " with non-directory")
      | _, _ => none
    if same && !isDir then
      Task.complain (Quoted.always source ++ " and " ++ Quoted.always goal ++ " are the same file")
      return 1
    match failed with
    | some message =>
      if !same then
        Task.complain message
        return 1
    | none => pure ()
    if s.keepsOthers && there.toOption.isSome then return 0
    match ← Task.change fun t =>
        if same then .error (.system .invalidArgument)
        else t.rename (Octets.path source) (Octets.path goal) with
    | none =>
      if s.verbose then
        Task.sayLine ("renamed " ++ Quoted.always source ++ " -> " ++ Quoted.always goal)
      return 0
    | some (.system .invalidArgument) =>
      Task.complain ("cannot move " ++ Quoted.always source ++ " to a subdirectory of itself, " ++
        Quoted.always goal)
      return 1
    | some (.system .notEmpty) => settle ("cannot overwrite " ++ Quoted.always goal) (some (.system .notEmpty))
    | some e => settle ("cannot move " ++ Quoted.always source ++ " to " ++ Quoted.always goal) (some e)

def sendingOptions : OptionSet where
  letters := "abdfiLnpPrRTuvxlsH"
  arguments := "tS"
  words := [("force", 'f'), ("recursive", 'r'), ("verbose", 'v'), ("target-directory", 't'),
    ("no-target-directory", 'T'), ("no-clobber", 'n'), ("archive", 'a'), ("preserve", 'p'),
    ("update", 'u'), ("interactive", 'i')]

/-- Sends each operand to the last one, or into it if it is a directory. -/
def send (send : Sending → String → String → Task Nat) : Program := fun args => do
  let g ← Task.options sendingOptions args
  let s : Sending := ⟨g.has 'v', g.has 'n', g.has 'r' || g.has 'R' || g.has 'a', g.value? 't', g.has 'T'⟩
  let into (dir : String) (sources : List String) : Task Nat :=
    Task.each sources fun source => send s source (inside dir (Names.baseName source))
  match g.operands, s.intoDirectory with
  | [], _ => Task.misuse 1 "missing file operand"
  | sources, some dir => into dir sources
  | [source], none =>
    Task.misuse 1 ("missing destination file operand after " ++ Quoted.always source)
  | all, none =>
    let goal := all.getLastD ""
    let sources := all.dropLast
    let there ← entry? goal
    let isDir := match there with
      | .ok (_, .directory) => true
      | _ => false
    if s.asFile then
      match sources with
      | [source] => send s source goal
      | _ => Task.misuse 1 ("extra operand " ++ Quoted.always (all.getD 2 ""))
    else if isDir then into goal sources
    else match sources with
      | [source] => send s source goal
      | _ =>
        let why := match there with
          | .error e => e
          | .ok _ => .system .notADirectory
        Task.fail 1 ("target " ++ Quoted.always goal ++ ": " ++ reason why)

def cp : Program := send copyOne

def mv : Program := send moveOne

/-- Gives a device a second name. -/
def copyDevice (t : FileTree) (goal : String) : Except Fault FileTree := do
  let (l, _) ← t.target (Octets.path goal)
  .ok (t.put l .device)

/-- Gives a file a second name, under which there is a copy of it from then on. -/
def linkOne (symbolic force : Bool) (s : Sending) (source goal : String) : Task Nat := do
  let from_ := if symbolic && !source.startsWith "/" then inside (Names.dirName goal) source else source
  let kind := if symbolic then "symbolic" else "hard"
  match ← entry? goal with
  | .ok _ =>
    if force then
      let _ ← Task.change fun t => t.removeFile (Octets.path goal)
    else
      let told := "failed to create " ++ kind ++ " link " ++ Quoted.always goal
      return ← settle told (some (.system .alreadyExists))
  | .error _ => pure ()
  match ← entry? from_ with
  | .ok (_, .directory) =>
    if symbolic then copyTree s treeDepth from_ goal
    else Task.fail 1 (source ++ ": hard link not allowed for directory")
  | .ok (l, e) =>
    if symbolic && !e.isFile then
      settle ("failed to create symbolic link " ++ Quoted.always goal)
        (← Task.change fun t => copyDevice t goal)
    else copyFile s from_ goal l
  | .error e =>
    if symbolic then return 0
    else settle ("failed to access " ++ Quoted.always source) (some e)

def ln : Program := fun args => do
  let g ← Task.options { letters := "sfnvrTL", words := [("symbolic", 's'), ("force", 'f')] } args
  let s : Sending := ⟨false, false, true, none, false⟩
  let link := linkOne (g.has 's') (g.has 'f') s
  match g.operands with
  | [] => Task.misuse 1 "missing file operand"
  | [source] => link source (Names.baseName source)
  | all =>
    let goal := all.getLastD ""
    let isDir := match ← entry? goal with
      | .ok (_, .directory) => true
      | _ => false
    if isDir && !g.has 'T' then
      Task.each all.dropLast fun source => link source (inside goal (Names.baseName source))
    else match all.dropLast with
      | [source] => link source goal
      | _ => Task.fail 1 ("target " ++ Quoted.always goal ++ ": Not a directory")

/-! ### Making and removing -/

/-- Removes what a path leads to, to a depth. -/
def removeAll (verbose : Bool) : Nat → String → Task Nat
  | 0, _ => return 1
  | n + 1, path => do
    let complaint := "cannot remove " ++ Quoted.always path
    match ← entry? path with
    | .error e => settle complaint (some e)
    | .ok (l, .directory) =>
      let code ← Task.each (names (← get).tree l) fun name => removeAll verbose n (inside path name)
      if code = 0 then
        match ← Task.change fun t => (t.removeTree (Octets.path path)).2.map fun _ =>
            (t.removeTree (Octets.path path)).1 with
        | none =>
          if verbose then Task.sayLine ("removed directory " ++ Quoted.always path)
          return 0
        | some e => settle complaint (some e)
      else return code
    | .ok _ =>
      match ← Task.change fun t => t.removeFile (Octets.path path) with
      | none =>
        if verbose then Task.sayLine ("removed " ++ Quoted.always path)
        return 0
      | some e => settle complaint (some e)

def isDotted (path : String) : Bool :=
  let name := Names.baseName path
  name = "." || name = ".."

def rm : Program := fun args => do
  let g ← Task.options { letters := "dfirRIv", words := [("force", 'f'), ("recursive", 'r'),
    ("verbose", 'v'), ("dir", 'd')] } args
  let force := g.last? "fi" = some 'f'
  let whole := g.has 'r' || g.has 'R'
  if g.operands.isEmpty then if force then return 0 else Task.misuse 1 "missing operand"
  Task.each g.operands fun path => do
    let complaint := "cannot remove " ++ Quoted.always path
    if whole && isDotted path then
      Task.complain ("refusing to remove '.' or '..' directory: skipping " ++ Quoted.always path)
      return 1
    match ← entry? path with
    | .error e =>
      if force && (e = .notFound || e = .system .notADirectory) then return 0
      settle complaint (some e)
    | .ok (l, .directory) =>
      if whole then removeAll (g.has 'v') treeDepth path
      else if g.has 'd' then
        if (← Task.ask fun t => t.children l).isEmpty then removeAll (g.has 'v') 2 path
        else settle complaint (some (.system .notEmpty))
      else settle complaint (some (.system .isADirectory))
    | .ok _ => removeAll (g.has 'v') 1 path

/-- Whether a directory is there, or why it cannot be. -/
def makeParents (verbose : Bool) : Nat → String → Task Nat
  | 0, _ => return 0
  | n + 1, path => do
    if path = "." || path = "/" || path = "" then return 0
    match ← entry? path with
    | .ok (_, .directory) => return 0
    | .ok _ =>
      Task.complain ("cannot create directory " ++ Quoted.always path ++ ": File exists")
      return 1
    | .error e =>
      let parent := Names.dirName path
      let blocked ← match ← entry? parent with
        | .ok (_, .directory) => pure none
        | .ok _ => pure (some (parent, Fault.system .notADirectory))
        | .error _ => pure none
      match blocked with
      | some (at_, why) =>
        settle ("cannot create directory " ++ Quoted.always (Names.dropSlashes at_)) (some why)
      | none =>
        let code ← makeParents verbose n parent
        if code ≠ 0 then return code
        let _ := e
        let shown := Names.dropSlashes path
        match ← Task.change fun t => t.makeDirectory (Octets.path path) with
        | none =>
          if verbose then Task.sayLine ((← get).name ++ ": created directory " ++ Quoted.always shown)
          return 0
        | some (.system .alreadyExists) => return 0
        | some e => settle ("cannot create directory " ++ Quoted.always path) (some e)

def mkdir : Program := fun args => do
  let g ← Task.options { letters := "pvZ", arguments := "m", words := [("parents", 'p'),
    ("verbose", 'v'), ("mode", 'm')] } args
  if g.operands.isEmpty then Task.misuse 1 "missing operand"
  Task.each g.operands fun path => do
    if g.has 'p' then makeParents (g.has 'v') treeDepth path
    else match ← Task.change fun t => t.makeDirectory (Octets.path path) with
      | none =>
        if g.has 'v' then
          Task.sayLine ((← get).name ++ ": created directory " ++ Quoted.always path)
        return 0
      | some e => settle ("cannot create directory " ++ Quoted.always path) (some e)

def rmdir : Program := fun args => do
  let g ← Task.options { letters := "pv", words := [("parents", 'p'), ("verbose", 'v')] } args
  if g.operands.isEmpty then Task.misuse 1 "missing operand"
  let one (path : String) : Task Nat := do
    match ← entry? path with
    | .error e => settle ("failed to remove " ++ Quoted.always path) (some e)
    | .ok (l, .directory) =>
      if (← Task.ask fun t => t.children l).isEmpty then
        settle ("failed to remove " ++ Quoted.always path) (← Task.change fun t =>
          (t.removeTree (Octets.path path)).2.map fun _ => (t.removeTree (Octets.path path)).1)
      else settle ("failed to remove " ++ Quoted.always path) (some (.system .notEmpty))
    | .ok _ => settle ("failed to remove " ++ Quoted.always path) (some (.system .notADirectory))
  Task.each g.operands fun path => do
    if g.has 'p' then
      let pieces := (Text.splitAt '/' (Names.dropSlashes path).toList).map String.ofList
      let ups := (List.range pieces.length).map fun i => "/".intercalate (pieces.take (pieces.length - i))
      Task.each ups one
    else one path

def touch : Program := fun args => do
  let g ← Task.options { letters := "acfmh", arguments := "drt", words := [("no-create", 'c'),
    ("date", 'd'), ("reference", 'r')] } args
  if g.operands.isEmpty then Task.misuse 1 "missing file operand"
  Task.each g.operands fun path => do
    match ← entry? path with
    | .ok (l, .file content executable) =>
      modify fun p => p.withTree (p.tree.put l (.file content executable))
      return 0
    | .ok _ => return 0
    | .error (.system .notADirectory) =>
      if path.endsWith "/" then settle ("setting times of " ++ Quoted.always path) (some (.system .notADirectory))
      else settle ("cannot touch " ++ Quoted.always path) (some (.system .notADirectory))
    | .error _ =>
      if g.has 'c' then return 0
      settle ("cannot touch " ++ Quoted.always path)
        (← Task.change fun t => t.writeBytes (Octets.path path) .empty)

/-! ### Modes -/

/-- What a mode makes of a file that can be run or cannot. -/
def applyClause (before : Bool) (clause : List Char) : Option Bool :=
  let who := clause.takeWhile fun c => "ugoa".contains c
  let everyone := who.isEmpty || who.contains 'a' || who.contains 'u'
  (clause.drop who.length).foldl (fun state c =>
    match state with
    | none => none
    | some (sign, runs) =>
      if "+-=".contains c then
        some (some c, if c = '=' && everyone then false else runs)
      else match sign with
        | none => none
        | some s =>
          if c = 'x' then some (sign, if s = '-' then (if everyone then false else runs) else true)
          else if c = 'X' then some (sign, runs)
          else if "rwstugo".contains c then some (sign, runs)
          else none) (some (none, before)) |>.bind fun x => if x.1.isNone then none else some x.2

def mode? (before : Bool) (mode : String) : Option Bool :=
  let cs := mode.toList
  if !cs.isEmpty && cs.all fun c => '0' ≤ c && c ≤ '7' then
    let n := (Numeral.digits 8 0 0 cs).1
    if 4095 < n then none else some (n &&& 73 ≠ 0)
  else (mode.splitOn ",").foldl (fun runs clause => runs.bind fun r => applyClause r clause.toList)
    (some before)

/-- A mode that takes rights away looks like an option. -/
def isMode (arg : String) : Bool :=
  match arg.toList with
  | '-' :: c :: _ => "rwxXstugo0,+=01234567".contains c && (mode? false arg).isSome
  | _ => false

def setMode (mode : String) (deep : Bool) : Nat → String → Task Nat
  | 0, _ => return 0
  | n + 1, path => do
    match ← entry? path with
    | .error e => settle ("cannot access " ++ Quoted.always path) (some e)
    | .ok (l, .file content executable) =>
      let runs := (mode? executable mode).getD executable
      modify fun p => p.withTree (p.tree.put l (.file content runs))
      return 0
    | .ok (l, .directory) =>
      if deep then
        Task.each (names (← get).tree l) fun name => setMode mode deep n (inside path name)
      else return 0
    | .ok _ => return 0

def chmod : Program := fun args => do
  let modes := args.filter isMode
  let g ← Task.options { letters := "Rcfv", words := [("recursive", 'R'), ("verbose", 'v'),
    ("silent", 'f'), ("quiet", 'f')] } (args.filter fun a => !isMode a)
  let all := modes ++ g.operands
  match all with
  | [] => Task.misuse 1 "missing operand"
  | [mode] => Task.misuse 1 ("missing operand after " ++ Quoted.word mode)
  | mode :: files =>
    if (mode? false mode).isNone then Task.misuse 1 ("invalid mode: " ++ Quoted.word mode)
    Task.each files (setMode mode (g.has 'R') treeDepth)

/-! ### Listing -/

/-- What stands behind a name to tell its kind. -/
def kindMark (flags slashes : Bool) : Entry → String
  | .directory => if flags || slashes then "/" else ""
  | .file _ executable => if flags && executable then "*" else ""
  | .device => ""

def listDirectory (g : Given) (title : Bool) : Nat → String → Task Nat
  | 0, _ => return 0
  | n + 1, path => do
    match ← entry? path with
    | .error e =>
      Task.complain ("cannot access " ++ Quoted.always path ++ ": " ++ reason e)
      return 2
    | .ok (l, _) =>
      let t := (← get).tree
      let size (name : String) : Nat := match t.find? (l ++ [Octets.decode name]) with
        | some (.file content _) => content.size
        | _ => 4096
      let age (name : String) : Nat := t.entries.findIdx fun x => x.1 = l ++ [Octets.decode name]
      let sorted := names t l
      let sorted := if g.has 't' then sorted.mergeSort fun a b => age a ≤ age b
        else if g.has 'S' then sorted.mergeSort fun a b => size b ≤ size a
        else sorted
      let sorted := if g.has 'r' then sorted.reverse else sorted
      let shown := if g.has 'a' then [".", ".."] ++ sorted
        else if g.has 'A' then sorted
        else sorted.filter fun name => !name.startsWith "."
      if title then Task.sayLine (path ++ ":")
      for name in shown do
        let mark := match t.find? (l ++ [Octets.decode name]) with
          | some e => kindMark (g.has 'F') (g.has 'p') e
          | none => if g.has 'F' || g.has 'p' then "/" else ""
        Task.sayLine (name ++ mark)
      if g.has 'R' then
        let dirs := shown.filter fun name =>
          match t.find? (l ++ [Octets.decode name]) with
          | some .directory => name ≠ "." && name ≠ ".."
          | _ => false
        Task.each dirs fun name => do
          Task.say "\n"
          listDirectory g true n (inside path name)
      else return 0

def ls : Program := fun args => do
  let g ← Task.options { letters := "1aAcCdfFghHiklLmnNopqQrRsStuUvxXZ", arguments := "IwT",
                         misuse := 2, words := [("all", 'a'), ("almost-all", 'A'),
                           ("directory", 'd'), ("recursive", 'R'), ("reverse", 'r'),
                           ("classify", 'F'), ("color", 'k')] } args
  let paths := if g.operands.isEmpty then ["."] else g.operands
  let mut code := 0
  let mut files : List String := []
  let mut dirs : List String := []
  for path in paths do
    match ← entry? path with
    | .error e =>
      Task.complain ("cannot access " ++ Quoted.always path ++ ": " ++ reason e)
      code := 2
    | .ok (_, e) =>
      if e.isDirectory && !g.has 'd' then dirs := dirs ++ [path]
      else files := files ++ [path ++ kindMark (g.has 'F') (g.has 'p') e]
  let order (names : List String) : List String :=
    let sorted := names.mergeSort fun a b => a ≤ b
    if g.has 'r' then sorted.reverse else sorted
  for f in order files do
    Task.sayLine f
  let title := 1 < paths.length || g.has 'R'
  let mut first := files.isEmpty
  for d in order dirs do
    if !first then Task.say "\n"
    first := false
    code := max code (← listDirectory g title treeDepth d)
  return code

/-- What a letter in a format of `stat` stands for. -/
def statField (path : String) (e : Entry) : Char → String
  | 'n' => path
  | 'N' => Quoted.always path
  | 's' => match e with
    | .file content _ => toString content.size
    | .directory => "4096"
    | .device => "0"
  | 'F' => match e with
    | .file content _ => if content.isEmpty then "regular empty file" else "regular file"
    | .directory => "directory"
    | .device => "character special file"
  | 'a' => match e with
    | .file _ false => "644"
    | .device => "666"
    | _ => "755"
  | 'A' => match e with
    | .file _ false => "-rw-r--r--"
    | .file _ true => "-rwxr-xr-x"
    | .directory => "drwxr-xr-x"
    | .device => "crw-rw-rw-"
  | 'U' | 'G' => "root"
  | 'u' | 'g' => "0"
  | 'h' => "1"
  | '%' => "%"
  | c => "?" ++ String.singleton c

def statText (path : String) (e : Entry) : List Char → String
  | '%' :: c :: rest => statField path e c ++ statText path e rest
  | c :: rest => String.singleton c ++ statText path e rest
  | [] => ""

def stat : Program := fun args => do
  let g ← Task.options { letters := "Lft", arguments := "cp", words := [("format", 'c'),
    ("printf", 'p')] } args
  if g.operands.isEmpty then Task.misuse 1 "missing operand"
  Task.each g.operands fun path => do
    match ← entry? path with
    | .error e => settle ("cannot statx " ++ Quoted.always path) (some e)
    | .ok (_, e) =>
      Task.sayLine (statText path e ((g.value? 'c').getD "%n").toList)
      return 0

/-! ### Sizes and blocks -/

/-- A text made so long, by zeros at its end or by cutting it. -/
def resize (size : Nat) (s : String) : String :=
  String.ofList ((s.toList ++ List.replicate (size - s.length) '\x00').take size)

def truncate : Program := fun args => do
  let g ← Task.options { letters := "co", arguments := "sr", words := [("size", 's'),
    ("no-create", 'c')] } args
  match g.value? 's' with
  | none => Task.misuse 1 "you must specify either '--size' or '--reference'"
  | some text =>
    let sign := text.toList.head?.filter fun c => "+-<>/%".contains c
    let digits := if sign.isSome then (text.drop 1).toString else text
    match Streams.count? digits with
    | none => Task.fail 1 ("Invalid number: " ++ Quoted.word text)
    | some n =>
      if g.operands.isEmpty then Task.misuse 1 "missing file operand"
      Task.each g.operands fun path => do
        let before := match ← Task.readFile path with
          | .ok s => s
          | .error _ => ""
        let size := match sign with
          | some '+' => before.length + n
          | some '-' => before.length - n
          | some '<' => min before.length n
          | some '>' => max before.length n
          | _ => n
        match ← Task.writeFile path false (resize size before) with
        | none => return 0
        | some e => settle ("cannot open " ++ Quoted.always path ++ " for writing") (some e)

def install : Program := fun args => do
  let g ← Task.options { letters := "cCDdpsTv", arguments := "gmotS", words := [("mode", 'm'),
    ("directory", 'd'), ("target-directory", 't')] } args
  let runs := (mode? true ((g.value? 'm').getD "755")).getD true
  if g.has 'd' then Task.each g.operands (makeParents false treeDepth)
  else match g.operands.reverse with
    | [] => Task.misuse 1 "missing file operand"
    | [source] => Task.misuse 1 ("missing destination file operand after " ++ Quoted.always source)
    | goal :: sources =>
      if g.has 'D' then
        let code ← makeParents false treeDepth (Names.dirName goal)
        if code ≠ 0 then Task.quit code
      let isDir ← Task.ask fun t => t.isDirectory (Octets.path goal)
      Task.each sources.reverse fun source => do
        let aim := if isDir then inside goal (Names.baseName source) else goal
        let code ← copyOne ⟨false, false, false, none, false⟩ source aim
        if code ≠ 0 then return code
        let _ ← Task.change fun t => t.setExecutable (Octets.path aim) runs
        return 0

/-- The value of an assignment among the operands of `dd`. -/
def setting? (args : List String) (name : String) : Option String :=
  args.findSome? fun a =>
    if a.startsWith (name ++ "=") then some (a.drop (name.length + 1)).toString else none

def dd : Program := fun args => do
  let number (name : String) (usual : Nat) : Nat :=
    ((setting? args name).bind Streams.count?).getD usual
  let block := max 1 (number "bs" (number "ibs" 512))
  let count := (setting? args "count").bind Streams.count?
  let path := (setting? args "if").getD "-"
  let skip := number "skip" 0 * block
  let wanted := match count with
    | some n => skip + n * block
    | none => Machine.endless
  match ← Task.readSource path wanted with
  | .error e => Task.fail 1 ("failed to open " ++ Quoted.always path ++ ": " ++ reason e)
  | .ok text =>
    let cs := text.toList.drop skip
    let cs := match count with
      | some n => cs.take (n * block)
      | none => cs
    let data := String.ofList cs
    match setting? args "of" with
    | none => Task.say data
    | some goal =>
      let before := match ← Task.readFile goal with
        | .ok s => s.toList
        | .error _ => []
      let seek := number "seek" 0 * block
      let front := before.take seek ++ List.replicate (seek - before.length) '\x00'
      let keeps := ((setting? args "conv").getD "").splitOn "," |>.contains "notrunc"
      let back := if keeps then before.drop (seek + cs.length) else []
      match ← Task.writeFile goal false (String.ofList (front ++ cs ++ back)) with
      | none => pure ()
      | some e => Task.fail 1 ("failed to open " ++ Quoted.always goal ++ ": " ++ reason e)
    let records := toString (cs.length / block) ++ "+" ++ (if cs.length % block = 0 then "0" else "1")
    let status := (setting? args "status").getD ""
    if status ≠ "none" then
      Task.complainPlain (records ++ " records in\n" ++ records ++ " records out")
      if status ≠ "noxfer" then
        Task.complainPlain (toString cs.length ++ (if cs.length = 1 then " byte" else " bytes") ++
          " copied, 0.0001 s, 0 kB/s")
    return 0

/-- Makes a file or a directory under a name that is not yet taken. -/
def makeTemporary : Program := fun args => do
  let g ← Task.options { letters := "dqtu", arguments := "p", words := [("directory", 'd'),
    ("tmpdir", 'p')] } args
  let p ← get
  set { p with machine := { p.machine with nextProcess := p.machine.nextProcess + 1 } }
  let mark := (toString (p.machine.nextProcess + 1000000000)).toList.reverse
  let pattern := (g.operands.headD "tmp.XXXXXXXXXX").toList.reverse
  let places := (pattern.takeWhile (· = 'X')).length
  if places < 3 then
    Task.fail 1 ("too few X's in template " ++ Quoted.word (g.operands.headD ""))
  let name := String.ofList (mark.take places ++ pattern.drop (min places mark.length)).reverse
  let path := if g.operands.isEmpty || g.has 't' || g.has 'p' then
      inside ((g.value? 'p').getD "/tmp") name else name
  let made ← Task.change fun t =>
    if g.has 'd' then t.makeDirectory (Octets.path path) else t.writeBytes (Octets.path path) .empty
  match made with
  | none =>
    Task.sayLine path
    return 0
  | some e =>
    settle ("failed to create " ++ (if g.has 'd' then "directory" else "file") ++ " via template " ++
      Quoted.word (g.operands.headD "")) (some e)

end PlcModule.Host.Files
