import PlcModule.Host.Shell.State

/-! What the words of a script stand for: texts, and the fields that they are cut into. -/
namespace PlcModule.Host.Shell

/-- What a word comes to before it is cut into fields. -/
inductive Piece where
  | mark (c : Char) (quoted : Bool)
  /-- A value without quotes, which is cut where the characters are that part fields. -/
  | value (cs : List Char)
  /-- Nothing, in quotes, which makes a field nevertheless. -/
  | present
  /-- The end of a field. -/
  | cut

/-- Stands between arguments that are not in quotes. No byte has its number. -/
def seam : Char := '\u0100'

/-- How a word is to be taken. -/
structure Taking where
  /-- It is cut into fields. -/
  full : Bool
  /-- Characters of its own are cut as well. -/
  operand : Bool

def marksOf (pieces : List Piece) : List Glob.Mark :=
  pieces.flatMap fun
    | .mark c quoted => [(c, quoted)]
    | .value cs => cs.map fun c => (if c = seam then ' ' else c, false)
    | .present => []
    | .cut => [(' ', true)]

def quotedText (s : String) : List Piece :=
  .present :: s.toList.map fun c => .mark c true

def valuePieces (quoted : Bool) (s : String) : List Piece :=
  if quoted then quotedText s else [.value s.toList]

/-! ### Fields -/

structure Splitting where
  /-- The fields that are complete, and the marks of the one that has begun, the last first. -/
  done : List (List Glob.Mark)
  current : List Glob.Mark
  begun : Bool

def Splitting.close (s : Splitting) : Splitting :=
  ⟨s.current.reverse :: s.done, [], false⟩

def Splitting.add (s : Splitting) (m : Glob.Mark) : Splitting :=
  ⟨s.done, m :: s.current, true⟩

/-- How far the characters after the end of a field are passed over. -/
inductive Passing where
  | no
  /-- Blanks, and one other separator if none was met yet. -/
  | blanks (one : Bool)

def splitValue (splitters : String) : Passing → Splitting → List Char → Splitting
  | _, s, [] => s
  | p, s, c :: rest =>
    let parts := c = seam || splitters.contains c
    let isGap := parts && (c = seam || Session.usualSplitters.contains c)
    if !parts then splitValue splitters .no (s.add (c, false)) rest
    else match p with
      | .blanks one =>
        if isGap then splitValue splitters p s rest
        else if one then splitValue splitters (.blanks false) s rest
        else splitValue splitters (.blanks false) s.close rest
      | .no =>
        if isGap && !s.begun then splitValue splitters .no s rest
        else splitValue splitters (.blanks isGap) s.close rest

/-- The fields that pieces make. -/
def fields (splitters : String) (pieces : List Piece) : List (List Glob.Mark) :=
  let s := pieces.foldl (fun (s : Splitting) piece =>
    match piece with
    | .mark c quoted => s.add (c, quoted)
    | .present => { s with begun := true }
    | .cut => s.close
    | .value cs => splitValue splitters .no s cs) ⟨[], [], false⟩
  (if s.begun then s.close.done else s.done).reverse

/-- Joins characters that follow one another into one value. -/
def joinValues : List Piece → List Piece
  | [] => []
  | .value a :: rest =>
    match joinValues rest with
    | .value b :: more => .value (a ++ b) :: more
    | more => .value a :: more
  | p :: rest => p :: joinValues rest

/-! ### Parameters -/

/-- The value of a parameter, unless it has none. -/
def parameter? (s : Session) (name : String) : Option String :=
  match name with
  | "@" | "*" => if s.arguments.isEmpty then none else some (s.joint.intercalate s.arguments)
  | "#" => some (toString s.arguments.length)
  | "?" => some (toString s.status)
  | "$" => some (toString s.root)
  | "!" => (s.jobs.getLast?).map fun j => toString j.id
  | "-" => some (String.ofList s.options)
  | _ =>
    match Numeral.count? name with
    | some 0 => some s.zero
    | some n => s.arguments[n - 1]?
    | none => s.value? name

def isAll (name : String) : Bool :=
  name = "@" || name = "*"

/-- What stands between arguments that are to be fields of their own. -/
def seamText (s : Session) : String :=
  if (s.var? "IFS").isSome then String.singleton seam else " "

/-- All arguments, as pieces. -/
def argumentPieces (s : Session) (name : String) (t : Taking) (quoted : Bool) : List Piece :=
  if quoted then
    if name = "@" && t.full then
      ((s.arguments.map quotedText).intersperse [.cut]).flatten
    else quotedText (s.joint.intercalate s.arguments)
  else if t.full then [.value ((seamText s).intercalate s.arguments).toList]
  else [.value (s.joint.intercalate s.arguments).toList]

/-- Where a user is at home. -/
def home? (s : Session) (user : String) : Option String :=
  if user = "" then s.value? "HOME" else if user = "root" then some "/root" else none

/-- Puts a home in place of a tilde at the front, and after colons where that is asked for. -/
def expandTilde (s : Session) (colons : Bool) : Nat → Word → Word
  | 0, w => w
  | n + 1, w =>
    let isStop (part : Part) : Bool := match part with
      | .char '/' false => true
      | .char ':' false => colons
      | _ => false
    let rest : Word := match w with
      | .char '~' false :: after =>
        let name := after.takeWhile fun part => !isStop part
        match plainText name with
        | some user =>
          match home? s user with
          | some dir => dir.toList.map (Part.char · true) ++ after.drop name.length
          | none => w
        | none => w
      | _ => w
    if colons then
      let front := rest.takeWhile fun part => !(match part with
        | .char ':' false => true
        | _ => false)
      match rest.drop front.length with
      | colon :: after => front ++ colon :: expandTilde s colons n after
      | [] => front
    else rest

/-! ### Calculations -/

/-- The number that a variable holds in a calculation. -/
def variableNumber (name : String) : Eval Int := do
  let text := ((← get).value? name).getD ""
  if text.toList.all Numeral.isBlank then return 0
  match Numeral.exactly? Numeral.prefixed? text with
  | some n => return n
  | none => failWith ("Illegal number: " ++ text)

def calculate (text : String) : Eval Int := do
  let refuse (why : String) : Eval Int :=
    failWith ("arithmetic expression: " ++ why ++ ": \"" ++ text ++ "\"")
  Formula.eval variableNumber (fun name n => assign name (toString n) false) refuse
    (Formula.parse text)

/-! ### Words -/

/-- Runs a command for what it writes. -/
abbrev Capture := Command → Eval String

def dropLineEnds (s : String) : String :=
  String.ofList (s.toList.reverse.dropWhile (· = '\n')).reverse

/-- What is told of a parameter that is missing if nothing else is asked for. -/
def missingText (orEmpty : Bool) : String :=
  "parameter not set" ++ if orEmpty then " or null" else ""

/-- What a part of a word comes to. Words may lie in one another to a depth. -/
def expandPart (capture : Capture) : Nat → Taking → Part → Eval (List Piece)
  | 0, _, _ => return []
  | n + 1, t, part => do
    let expand (t : Taking) (w : Word) : Eval (List Piece) := do
      let pieces ← w.mapM (expandPart capture n t)
      return joinValues pieces.flatten
    let textOf (w : Word) : Eval String := do
      return Glob.textOf (marksOf (← expand ⟨false, false⟩ w))
    match part with
    | .char c quoted => return if t.operand && !quoted then [.value [c]] else [.mark c quoted]
    | .quotes => return [.present]
    | .output body quoted =>
      let text := dropLineEnds (← capture body)
      return valuePieces quoted (String.ofList (text.toList.filter (· ≠ '\x00')))
    | .number formula quoted =>
      let k ← calculate (← textOf formula)
      return valuePieces quoted (toString k)
    | .parameter name edit quoted =>
      let s ← get
      let value := parameter? s name
      let keep : Eval (List Piece) := do
        if isAll name then return argumentPieces (← get) name t quoted
        return valuePieces quoted ((parameter? (← get) name).getD "")
      let demand : Eval Unit := do
        if value.isNone && s.isSet 'u' && !isAll name then
          failWith (name ++ ": parameter not set")
      match edit with
      | .senseless => failWith "Bad substitution"
      | .keep =>
        demand
        keep
      | .length =>
        demand
        return valuePieces quoted (toString (value.getD "").length)
      | .cut atEnd longest pattern =>
        demand
        let p := marksOf (← expand ⟨false, false⟩ (expandTilde s false 1 pattern))
        let isSeamed := isAll name && t.full && (!quoted || name = "@")
        let text := if isSeamed then (seamText s).intercalate s.arguments else value.getD ""
        let rest := Glob.cutOff seam atEnd longest p text.toList
        if isSeamed && quoted then
          return (((Text.splitAt seam rest).map fun cs => quotedText (String.ofList cs)).intersperse
            [.cut]).flatten
        return valuePieces quoted (String.ofList rest)
      | .missing orEmpty fallback word =>
        let missing := value.isNone || (orEmpty && value = some "")
        let word := if quoted then word else expandTilde s false 1 word
        let mark : List Piece := if quoted then [.present] else []
        let inner : Taking := ⟨t.full, t.full && !quoted⟩
        match fallback with
        | .use => if missing then return mark ++ (← expand inner word) else keep
        | .replace => if missing then return mark else return mark ++ (← expand inner word)
        | .assign =>
          if missing then
            let text ← textOf word
            if !isName name then failWith (name ++ ": bad variable name")
            assign name text false
            return valuePieces quoted text
          else keep
        | .complain =>
          if missing then
            let text ← if word.isEmpty then pure (missingText orEmpty) else textOf word
            failWith (name ++ ": " ++ text)
          else keep

/-- How deep words may lie in one another. -/
def wordDepth : Nat := 1000

def expandPieces (capture : Capture) (t : Taking) (w : Word) : Eval (List Piece) := do
  let pieces ← w.mapM (expandPart capture wordDepth t)
  return joinValues pieces.flatten

/-- A word as a pattern. -/
def expandMarks (capture : Capture) (w : Word) : Eval (List Glob.Mark) := do
  let w := expandTilde (← get) false 1 w
  return marksOf (← expandPieces capture ⟨false, false⟩ w)

/-- A word as one text. -/
def expandText (capture : Capture) (w : Word) : Eval String := do
  return Glob.textOf (← expandMarks capture w)

/-- The value of a setting. -/
def expandValue (capture : Capture) (w : Word) : Eval String := do
  let w := expandTilde (← get) true (w.length + 1) w
  return Glob.textOf (marksOf (← expandPieces capture ⟨false, false⟩ w))

/-- The texts that a word stands for: its fields, with the names of files for patterns. -/
def expandWord (capture : Capture) (w : Word) : Eval (List String) := do
  let w := expandTilde (← get) false 1 w
  let pieces ← expandPieces capture ⟨true, false⟩ w
  let s ← get
  return (fields s.splitters pieces).flatMap fun field =>
    if Glob.isPattern field && !s.isSet 'f' then
      match Glob.files s.tree field with
      | [] => [Glob.textOf field]
      | names => names
    else [Glob.textOf field]

def expandWords (capture : Capture) (ws : List Word) : Eval (List String) := do
  return (← ws.mapM (expandWord capture)).flatten

end PlcModule.Host.Shell
