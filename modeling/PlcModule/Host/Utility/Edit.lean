import PlcModule.Host.Regex
import PlcModule.Host.Utility.Streams

/-! The program that edits a stream of lines by a script. -/
namespace PlcModule.Host.Edit

/-- An expression of the script. One that is empty stands for the last one used. -/
abbrev Pattern := Option (Regex × Bool)

inductive Address where
  | line (n : Nat)
  /-- Every so many lines from a first one on. -/
  | step (first every : Nat)
  | last
  | matching (p : Pattern)

inductive Stop where
  | at_ (a : Address)
  | after (n : Nat)
  | multiple (n : Nat)

inductive Selector where
  | every
  | one (a : Address)
  | range (start : Address) (stop : Stop)

/-- A piece of what is put in place of a match. -/
inductive Piece where
  | text (s : String)
  | group (n : Nat)
  /-- A change of case: of all that follows, or of the next character. -/
  | case (kind : Char)

structure Substitution where
  pattern : Pattern
  foldCase : Bool
  pieces : List Piece
  everywhere : Bool
  from_ : Nat
  prints : Bool
  file : Option String

inductive Action where
  | block (stop : Nat)
  | nothing
  | append (text : String)
  | insert (text : String)
  | change (text : String)
  | delete
  | deleteFirst
  | next
  | nextAppend
  | print
  | printFirst
  | list
  | number
  | quit (code : Nat) (silent : Bool)
  | holdSet
  | holdAppend
  | holdGet
  | holdGetAppend
  | exchange
  | substitute (s : Substitution)
  | translate (pairs : List (Char × Char))
  /-- Goes on at a label, or at the end: always, after a substitution, or after none. -/
  | branch (kind : Char) (label : String)
  | label (name : String)
  | readFile (path : String)
  | writeFile (path : String)

structure Instruction where
  selector : Selector
  negated : Bool
  action : Action

/-! ### Reading a script -/

structure Script where
  rest : List Char
  taken : Nat
  extended : Bool

abbrev Reader := ExceptT (Nat × String) (StateM Script)

def refuse {α : Type} (message : String) : Reader α := do
  throw ((← get).taken, message)

def peek : Reader (Option Char) := do
  return (← get).rest.head?

def skip : Reader Unit :=
  modify fun s => { s with rest := s.rest.tail, taken := s.taken + (if s.rest.isEmpty then 0 else 1) }

def takeWhile (p : Char → Bool) : Reader (List Char) := do
  let s ← get
  let front := s.rest.takeWhile p
  set { s with rest := s.rest.drop front.length, taken := s.taken + front.length }
  return front

def isGap (c : Char) : Bool :=
  c = ' ' || c = '\t'

def number : Reader Nat := do
  return (Numeral.digits 10 0 0 (← takeWhile Char.isDigit)).1

/-- The text up to a delimiter, which a backslash may hide. Between brackets it stands for
itself in an expression. -/
def delimited (d : Char) (isRegex : Bool) : Nat → Bool → List Char → Reader (Option (List Char))
  | 0, _, _ => return none
  | n + 1, inBracket, done => do
    match ← peek with
    | none => return none
    | some c =>
      skip
      if c = d && !inBracket then return some done.reverse
      else if c = '\\' then
        match ← peek with
        | none => return none
        | some e =>
          skip
          if e = d then
            delimited d isRegex n inBracket (if isRegex && !(".[]*^$+?()\x7b\x7d|".contains d) then d :: done
              else if isRegex then d :: '\\' :: done else d :: done)
          else if e = '\n' && isRegex then delimited d isRegex n inBracket ('n' :: '\\' :: done)
          else delimited d isRegex n inBracket (e :: '\\' :: done)
      else if c = '\n' && isRegex then return none
      else
        let opens := isRegex && !inBracket && c = '['
        let first := done.head? = some '[' || (done.head? = some '^' && done.tail.head? = some '[')
        let closes := isRegex && inBracket && c = ']' && !first
        delimited d isRegex n ((inBracket || opens) && !closes) (c :: done)

def fuel : Reader Nat := do
  return (← get).rest.length + 2

/-- An expression in the way of writing of the script. -/
def pattern (text : List Char) (foldCase : Bool) : Reader Pattern := do
  if text.isEmpty then return none
  match Regex.parse (← get).extended text with
  | .ok r => return some (r, foldCase)
  | .error message => refuse message

def address? : Reader (Option Address) := do
  match ← peek with
  | some '$' =>
    skip
    return some .last
  | some c =>
    if c.isDigit then
      let n ← number
      if (← peek) = some '~' then
        skip
        return some (.step n (← number))
      return some (.line n)
    else if c = '/' || c = '\\' then
      skip
      let d ← if c = '\\' then do
          let d := (← peek).getD '/'
          skip
          pure d
        else pure '/'
      match ← delimited d true (← fuel) false [] with
      | none => refuse "unterminated address regex"
      | some text =>
        let flags ← takeWhile fun c => c = 'I' || c = 'M'
        return some (.matching (← pattern text (flags.contains 'I')))
    else return none
  | none => return none

def Address.isZero : Address → Bool
  | .line 0 => true
  | _ => false

def stop : Reader Stop := do
  let _ ← takeWhile isGap
  match ← peek with
  | some '+' =>
    skip
    return .after (← number)
  | some '~' =>
    skip
    return .multiple (← number)
  | _ =>
    match ← address? with
    | some a => return .at_ a
    | none =>
      skip
      refuse "unexpected \x60,'"

def selector : Reader Selector := do
  match ← address? with
  | none => return .every
  | some a =>
    let _ ← takeWhile isGap
    if (← peek) = some ',' then
      skip
      let s ← stop
      match a.isZero, s with
      | true, .at_ (.matching _) => return .range a s
      | true, _ =>
        let _ ← takeWhile isGap
        skip
        refuse "invalid usage of line address 0"
      | false, _ => return .range a s
    else if a.isZero then
      skip
      refuse "invalid usage of line address 0"
    else return .one a

/-- What is put in place of a match, from its text. -/
def pieces : Nat → List Char → List Char → List Piece
  | 0, _, _ => []
  | _, text, [] => if text.isEmpty then [] else [.text (String.ofList text.reverse)]
  | n + 1, text, c :: rest =>
    let close (p : Piece) (rest : List Char) : List Piece :=
      (if text.isEmpty then [] else [.text (String.ofList text.reverse)]) ++ p :: pieces n [] rest
    match c, rest with
    | '&', _ => close (.group 0) rest
    | '\\', e :: rest =>
      if e.isDigit then close (.group (e.toNat - 0x30)) rest
      else if "ULEul".contains e then close (.case e) rest
      else match e with
        | 'n' => pieces n ('\n' :: text) rest
        | 't' => pieces n ('\t' :: text) rest
        | 'r' => pieces n ('\x0d' :: text) rest
        | 'a' => pieces n ('\x07' :: text) rest
        | 'f' => pieces n ('\x0c' :: text) rest
        | 'v' => pieces n ('\x0b' :: text) rest
        | _ => pieces n (e :: text) rest
    | _, _ => pieces n (c :: text) rest

/-- The name of a file, up to the end of the line. -/
def fileName : Reader String := do
  let _ ← takeWhile isGap
  let name ← takeWhile (· ≠ '\n')
  if name.isEmpty then refuse "missing filename in r/R/w/W commands"
  return String.ofList name

def substitutionFlags : Nat → Bool → Substitution → Reader Substitution
  | 0, _, s => return s
  | n + 1, counted, s => do
    match ← peek with
    | none => return s
    | some c =>
      if c = '\n' || c = ';' then return s
      else if c = '\x7d' || c = '#' then return s
      else if c.isDigit then
        let k ← number
        if k = 0 then refuse "number option to \x60s' command may not be zero"
        if counted then refuse "multiple number options to \x60s' command"
        substitutionFlags n true { s with from_ := k }
      else
        skip
        match c with
        | 'g' =>
          if s.everywhere then refuse "multiple \x60g' options to \x60s' command"
          substitutionFlags n counted { s with everywhere := true }
        | 'p' =>
          if s.prints then refuse "multiple \x60p' options to \x60s' command"
          substitutionFlags n counted { s with prints := true }
        | 'i' | 'I' =>
          substitutionFlags n counted { s with foldCase := true }
        | 'm' | 'M' | 'e' => substitutionFlags n counted s
        | 'w' => return { s with file := some (← fileName) }
        | ' ' | '\t' | '\x0d' => substitutionFlags n counted s
        | _ => refuse "unknown option to \x60s'"

/-- How many groups an expression has. -/
def groupCount : Regex → Nat
  | .seq a b | .alt a b => groupCount a + groupCount b
  | .repeated r _ _ => groupCount r
  | .group _ r => groupCount r + 1
  | _ => 0

def substitution : Reader Action := do
  let unfinished := "unterminated \x60s' command"
  match ← peek with
  | none => refuse unfinished
  | some d =>
    skip
    match ← delimited d true (← fuel) false [] with
    | none => refuse unfinished
    | some text =>
      match ← delimited d false (← fuel) false [] with
      | none => refuse unfinished
      | some goal =>
        let parts := pieces (goal.length + 1) [] goal
        let s ← substitutionFlags (← fuel) false ⟨none, false, parts, false, 1, false, none⟩
        let p ← pattern text s.foldCase
        let highest := (parts.map fun x => match x with
          | .group n => n
          | _ => 0).foldl max 0
        match p with
        | some (r, _) =>
          if groupCount r < highest then
            refuse ("invalid reference \\" ++ toString highest ++ " on \x60s' command's RHS")
        | none => pure ()
        return .substitute { s with pattern := p }

/-- The text after `a`, `i` or `c`. -/
def lineText : Nat → List Char → Reader (List Char)
  | 0, done => return done.reverse
  | n + 1, done => do
    match ← peek with
    | none => return done.reverse
    | some c =>
      skip
      if c = '\n' then return done.reverse
      else if c = '\\' then
        match ← peek with
        | none => return done.reverse
        | some e =>
          skip
          lineText n (e :: done)
      else lineText n (c :: done)

def textArgument : Reader String := do
  let _ ← takeWhile isGap
  match ← peek with
  | none => refuse "expected \\ after \x60a', \x60c' or \x60i'"
  | some '\\' =>
    skip
    let _ ← takeWhile isGap
    if (← peek) = some '\n' then skip
    let text ← lineText (← fuel) []
    return String.ofList text ++ "\n"
  | some _ =>
    let text ← lineText (← fuel) []
    return String.ofList text ++ "\n"

/-- A label, up to a blank or a semicolon. -/
def labelName : Reader String := do
  let _ ← takeWhile isGap
  let name ← takeWhile fun c => c ≠ '\n' && c ≠ ';' && !isGap c
  return String.ofList name

def exitCode : Reader Nat := do
  let _ ← takeWhile isGap
  number

def transliterate (cs : List Char) : List Char :=
  match cs with
  | '\\' :: 'n' :: rest => '\n' :: transliterate rest
  | '\\' :: 't' :: rest => '\t' :: transliterate rest
  | '\\' :: '\\' :: rest => '\\' :: transliterate rest
  | c :: rest => c :: transliterate rest
  | [] => []

/-- Makes sure that nothing follows a command but what ends it. -/
def finish (a : Action) : Reader Action := do
  let _ ← takeWhile fun c => isGap c || c = '\x0d'
  match ← peek with
  | none => return a
  | some c =>
    if c = '\n' || c = ';' then
      skip
      return a
    else if c = '\x7d' || c = '#' then return a
    else
      skip
      refuse "extra characters after command"

def action (c : Char) : Reader Action := do
  match c with
  | '\x7b' => return .block 0
  | '=' => finish .number
  | 'a' => return .append (← textArgument)
  | 'i' => return .insert (← textArgument)
  | 'c' => return .change (← textArgument)
  | 'd' => finish .delete
  | 'D' => finish .deleteFirst
  | 'n' => finish .next
  | 'N' => finish .nextAppend
  | 'p' => finish .print
  | 'P' => finish .printFirst
  | 'l' => finish .list
  | 'h' => finish .holdSet
  | 'H' => finish .holdAppend
  | 'g' => finish .holdGet
  | 'G' => finish .holdGetAppend
  | 'x' => finish .exchange
  | 'q' => finish (.quit (← exitCode) false)
  | 'Q' => finish (.quit (← exitCode) true)
  | 's' =>
    let a ← substitution
    finish a
  | 'y' =>
    let unfinished := "unterminated \x60y' command"
    match ← peek with
    | none => refuse unfinished
    | some d =>
      skip
      match ← delimited d false (← fuel) false [] with
      | none => refuse unfinished
      | some from_ =>
        match ← delimited d false (← fuel) false [] with
        | none => refuse unfinished
        | some onto =>
          let a := transliterate from_
          let b := transliterate onto
          if a.length ≠ b.length then refuse "strings for \x60y' command are different lengths"
          finish (.translate (a.zip b))
  | 'b' | 't' | 'T' =>
    let name ← labelName
    finish (.branch c name)
  | ':' =>
    let name ← labelName
    if name = "" then refuse "\":\" lacks a label"
    finish (.label name)
  | 'r' | 'R' => return .readFile (← fileName)
  | 'w' | 'W' => return .writeFile (← fileName)
  | _ => refuse ("unknown command: \x60" ++ String.singleton c ++ "'")

/-- Reads the commands of a script. The blocks that are open are held by the places of their
beginnings. -/
def commands : Nat → List Nat → Array Instruction → Reader (Array Instruction)
  | 0, _, done => return done
  | n + 1, blocks, done => do
    let _ ← takeWhile fun c => isGap c || c = '\n' || c = ';'
    match ← peek with
    | none =>
      if blocks.isEmpty then return done else throw (0, "unmatched \x60\x7b'")
    | some '#' =>
      let _ ← takeWhile (· ≠ '\n')
      commands n blocks done
    | some '\x7d' =>
      skip
      match blocks with
      | [] => refuse "unexpected \x60\x7d'"
      | start :: blocks =>
        let opening := done.getD start ⟨.every, false, .nothing⟩
        let done := done.setIfInBounds start { opening with action := .block (done.size + 1) }
        let _ ← finish .nothing
        commands n blocks (done.push ⟨.every, false, .nothing⟩)
    | some _ =>
      let s ← selector
      let _ ← takeWhile isGap
      let negations ← takeWhile fun c => c = '!' || isGap c
      match ← peek with
      | none => refuse "missing command"
      | some c =>
        skip
        let a ← action c
        let i : Instruction := ⟨s, !negations.isEmpty, a⟩
        commands n (if c = '\x7b' then done.size :: blocks else blocks) (done.push i)

/-! ### Running a script -/

structure Run where
  space : String
  hold : String
  line : Nat
  left : List String
  /-- The very last line is ended. -/
  ended : Bool
  out : List String
  /-- What was written last lacks its end. -/
  missing : Bool
  queued : List String
  replaced : Bool
  lastPattern : Option (Regex × Bool)
  /-- For each instruction, whether its range is open, and the line that closes it. -/
  open_ : List (Nat × Option Nat)
  files : List (String × String)
  quiet : Bool
  terminator : String

inductive Goal where
  | next
  | jump (n : Nat)
  | cycle (prints : Bool)
  | again
  | quit (code : Nat) (prints : Bool)

abbrev Runner := StateT Run Task

/-- Writes a line. The last line of the input lacks its end if it did there. -/
def emit (line : String) : Runner Unit :=
  modify fun r =>
    let open_ := r.left.isEmpty && !r.ended
    { r with
      out := (line ++ if open_ then "" else r.terminator) ::
        (if r.missing then r.terminator :: r.out else r.out)
      missing := open_ }

def emitText (text : String) : Runner Unit :=
  modify fun r =>
    { r with out := text :: (if r.missing then r.terminator :: r.out else r.out), missing := false }

def flushQueue : Runner Unit := do
  let r ← get
  set { r with queued := [] }
  for text in r.queued do
    emitText text

/-- Takes the next line in. -/
def advance : Runner Bool := do
  let r ← get
  match r.left with
  | [] => return false
  | line :: left =>
    set { r with space := line, left, line := r.line + 1 }
    return true

/-- Whether the text that is worked on matches. -/
def matchesSpace (p : Pattern) : Runner Bool := do
  let r ← get
  match p.orElse fun _ => r.lastPattern with
  | none => return false
  | some q =>
    set { r with lastPattern := some q }
    return Regex.matches_ q.2 q.1 r.space

def Address.holds (a : Address) : Runner Bool := do
  let r ← get
  match a with
  | .line n => return r.line = n
  | .step first every =>
    return if every = 0 then r.line = first
      else first ≤ r.line && (r.line - first) % every = 0
  | .last => return r.left.isEmpty
  | .matching p => matchesSpace p

/-- The line that a range ends with, as far as it is known when the range begins. -/
def Stop.line? (line : Nat) : Stop → Option Nat
  | .after n => some (line + n)
  | .multiple n => some (if n = 0 then line else (line + n - 1) / n * n)
  | .at_ (.line n) => some n
  | .at_ _ => none

def setOpen (index : Nat) (state : Option (Option Nat)) : Runner Unit :=
  modify fun r =>
    let others := r.open_.filter fun x => x.1 ≠ index
    { r with open_ := match state with
      | some stop => (index, stop) :: others
      | none => others }

def Selector.holds (index : Nat) (s : Selector) : Runner Bool := do
  match s with
  | .every => return true
  | .one a => a.holds
  | .range start stop =>
    let r ← get
    let fromTop := start.isZero && r.line = 1 && (r.open_.lookup index).isNone
    match (r.open_.lookup index).orElse fun _ => if fromTop then some none else none with
    | some (some n) =>
      if r.line < n then return true
      setOpen index none
      if r.line = n then return true
      -- A range that has ended before this line may begin anew.
      if ← start.holds then
        match stop.line? r.line with
        | some m => if r.line < m then setOpen index (some (some m))
        | none => setOpen index (some none)
        return true
      return false
    | some none =>
      match stop with
      | .at_ a => setOpen index (if ← a.holds then none else some none)
      | _ => setOpen index none
      return true
    | none =>
      if !(← start.holds) then return false
      match stop.line? r.line with
      | some n => if r.line < n then setOpen index (some (some n))
      | none =>
        match stop with
        | .at_ .last => if !r.left.isEmpty then setOpen index (some none)
        | _ => setOpen index (some none)
      return true

/-- A text put together from pieces, with the changes of case among them. -/
def assemble (text : Array Char) (f : Regex.Found) (pieces : List Piece) : String :=
  let group (n : Nat) : String :=
    if n = 0 then String.ofList (text.extract f.start f.stop).toList
    else match f.groups.lookup n with
      | some (a, b) => String.ofList (text.extract a b).toList
      | none => ""
  let cased (mode once : Option Char) (s : String) : String :=
    let s := match mode with
      | some 'U' => s.map Char.toUpper
      | some 'L' => s.map Char.toLower
      | _ => s
    match once, s.toList with
    | some 'u', c :: rest => String.ofList (c.toUpper :: rest)
    | some 'l', c :: rest => String.ofList (c.toLower :: rest)
    | _, _ => s
  (pieces.foldl (fun (done, mode, once) p =>
    match p with
    | .case 'E' => (done, none, once)
    | .case k => if k = 'u' || k = 'l' then (done, mode, some k) else (done, some k, once)
    | .text s => (done ++ cased mode once s, mode, if s = "" then once else none)
    | .group n =>
      let s := group n
      (done ++ cased mode once s, mode, if s = "" then once else none))
    (("", none, none) : String × Option Char × Option Char)).1

/-- Goes through the matches of a text. -/
def replaceFrom (r : Regex × Bool) (s : Substitution) (text : Array Char) :
    Nat → Nat → Nat → Bool → List String → List String × Bool
  | 0, _, _, changed, done => (done, changed)
  | n + 1, offset, count, changed, done =>
    let rest (from_ : Nat) : String := String.ofList (text.extract from_ text.size).toList
    match Regex.search? r.2 r.1 text offset with
    | none => (rest offset :: done, changed)
    | some f =>
      let count := count + 1
      let before := String.ofList (text.extract offset f.start).toList
      let here := s.from_ ≤ count
      let piece := if here then assemble text f s.pieces
        else String.ofList (text.extract f.start f.stop).toList
      let done := piece :: before :: done
      if here && !s.everywhere then (rest f.stop :: done, true)
      else if f.stop = f.start then
        if text.size ≤ f.stop then (done, changed || here)
        else replaceFrom r s text n (f.stop + 1) count (changed || here)
          (String.singleton (text.getD f.stop ' ') :: done)
      else
        -- An empty match right behind another one does not count.
        match Regex.search? r.2 r.1 text f.stop with
        | some g =>
          if g.start = f.stop && g.stop = f.stop && f.stop < text.size then
            replaceFrom r s text n (f.stop + 1) count (changed || here)
              (String.singleton (text.getD f.stop ' ') :: done)
          else if g.start = f.stop && g.stop = f.stop then (done, changed || here)
          else replaceFrom r s text n f.stop count (changed || here) done
        | none => (rest f.stop :: done, changed || here)

def appendFile (path text : String) : Runner Unit := do
  if path = "/dev/stdout" then emitText text
  else modify fun r =>
    let before := (r.files.lookup path).getD ""
    { r with files := (path, before ++ text) :: r.files.filter fun x => x.1 ≠ path }

def substitute (s : Substitution) : Runner Unit := do
  let r ← get
  match s.pattern.orElse fun _ => r.lastPattern with
  | none => return
  | some p =>
    let text := r.space.toList.toArray
    let (done, changed) := replaceFrom p s text (2 * text.size + 4) 0 0 false []
    set { r with lastPattern := some p }
    if changed then
      modify fun r => { r with space := String.join done.reverse, replaced := true }
      let space := (← get).space
      if s.prints then emit space
      match s.file with
      | some path => appendFile path (space ++ "\n")
      | none => pure ()

def firstLine (s : String) : String × Option String :=
  match s.splitOn "\n" with
  | a :: b :: more => (a, some ("\n".intercalate (b :: more)))
  | _ => (s, none)

/-- A line in a form that shows every character. -/
def listed (s : String) : String :=
  String.join (s.toList.map fun c =>
    if c = '\\' then "\\\\"
    else if 32 ≤ c.toNat && c.toNat ≤ 126 then String.singleton c
    else Quoted.escape c) ++ "$"

/-- The place of a label, or the end. -/
def target (script : Array Instruction) (name : String) : Nat :=
  (script.toList.findIdx? fun i => match i.action with
    | .label l => l = name
    | _ => false).getD script.size

def perform (script : Array Instruction) (index : Nat) (i : Instruction) : Runner Goal := do
  let r ← get
  match i.action with
  | .block _ | .nothing | .label _ => return .next
  | .append text =>
    set { r with queued := r.queued ++ [text] }
    return .next
  | .insert text =>
    emitText text
    return .next
  | .change text =>
    let inRange := match i.selector with
      | .range .. => (r.open_.lookup index).isSome && !i.negated
      | _ => false
    if !inRange then emitText text
    return .cycle false
  | .delete => return .cycle false
  | .deleteFirst =>
    match firstLine r.space with
    | (_, some rest) =>
      set { r with space := rest }
      return .again
    | _ => return .cycle false
  | .next =>
    if r.left.isEmpty then return .quit 0 true
    if !r.quiet then emit r.space
    flushQueue
    let _ ← advance
    return .next
  | .nextAppend =>
    if r.left.isEmpty then return .quit 0 true
    flushQueue
    let before := (← get).space
    let _ ← advance
    modify fun r => { r with space := before ++ "\n" ++ r.space }
    return .next
  | .print =>
    emit r.space
    return .next
  | .printFirst =>
    emitText ((firstLine r.space).1 ++ "\n")
    return .next
  | .list =>
    emitText (listed r.space ++ "\n")
    return .next
  | .number =>
    emitText (toString r.line ++ "\n")
    return .next
  | .quit code silent => return .quit code (!silent)
  | .holdSet =>
    set { r with hold := r.space }
    return .next
  | .holdAppend =>
    set { r with hold := r.hold ++ "\n" ++ r.space }
    return .next
  | .holdGet =>
    set { r with space := r.hold }
    return .next
  | .holdGetAppend =>
    set { r with space := r.space ++ "\n" ++ r.hold }
    return .next
  | .exchange =>
    set { r with space := r.hold, hold := r.space }
    return .next
  | .substitute s =>
    substitute s
    return .next
  | .translate pairs =>
    set { r with space := r.space.map fun c => (pairs.lookup c).getD c }
    return .next
  | .branch kind name =>
    let goes := kind = 'b' || (kind = 't' && r.replaced) || (kind = 'T' && !r.replaced)
    if kind ≠ 'b' then set { r with replaced := false }
    return if goes then .jump (if name = "" then script.size else target script name) else .next
  | .readFile path =>
    match ← Task.readFile path with
    | .ok text => modify fun r => { r with queued := r.queued ++ [text] }
    | .error _ => pure ()
    return .next
  | .writeFile path =>
    appendFile path (r.space ++ "\n")
    return .next

/-- Runs the script on a line, from an instruction on. -/
def runFrom (script : Array Instruction) : Nat → Nat → Runner Goal
  | 0, _ => return .quit 1 false
  | n + 1, index => do
    match script[index]? with
    | none => return .cycle true
    | some i =>
      let chosen ← i.selector.holds index
      if chosen != i.negated then
        match ← perform script index i with
        | .next => runFrom script n (index + 1)
        | .jump k => runFrom script n k
        | other => return other
      else match i.action with
        | .block stop => runFrom script n stop
        | _ => runFrom script n (index + 1)

/-- How many steps a script may take on a line. -/
def stepLimit : Nat := 1000000

/-- Runs the script on the lines that are left. Answers the code to exit with if it ends all. -/
def cycles (script : Array Instruction) : Nat → Bool → Runner (Option Nat)
  | 0, _ => return none
  | n + 1, takes => do
    let present ← if takes then advance else pure true
    if !present then return none
    modify fun r => { r with replaced := if takes then false else r.replaced }
    match ← runFrom script stepLimit 0 with
    | .again =>
      flushQueue
      cycles script n false
    | .quit code prints =>
      if prints && !(← get).quiet then emit (← get).space
      flushQueue
      return some code
    | .cycle false =>
      flushQueue
      cycles script n true
    | _ =>
      if !(← get).quiet then emit (← get).space
      flushQueue
      cycles script n true

def sedOptions : OptionSet where
  letters := "nErsuzi"
  arguments := "efl"
  words := [("quiet", 'n'), ("silent", 'n'), ("expression", 'e'), ("file", 'f'),
    ("regexp-extended", 'E'), ("in-place", 'i'), ("separate", 's'), ("null-data", 'z')]

/-- An option for editing in place may have an ending for copies behind it. -/
def inPlace (args : List String) : List String × Option String :=
  let isPlace (a : String) : Bool :=
    a.startsWith "-i" || a.startsWith "--in-place" || a = "-ni" || a = "-Ei" || a = "-ri"
  match (args.takeWhile (· ≠ "--")).find? isPlace with
  | some a =>
    let ending := if a.startsWith "--in-place=" then (a.drop 11).toString
      else if a.startsWith "-i" then (a.drop 2).toString else ""
    let kept := if a = "-ni" then ["-n"] else if a = "-Ei" || a = "-ri" then ["-E"] else []
    (kept ++ args.filter (!isPlace ·), some ending)
  | none => (args, none)

def Run.start (space : Run) (text : String) : Run :=
  let (lines, ended) := Lines.collect (if space.terminator = "\n" then '\n' else '\x00') [] [] text.toList
  { space with left := lines, ended }

def emptyRun (quiet : Bool) (terminator : String) : Run :=
  ⟨"", "", 0, [], true, [], false, [], false, none, [], [], quiet, terminator⟩

def saveFiles (files : List (String × String)) : Task Unit := do
  for (path, text) in files do
    let _ ← Task.writeFile path false text

def sed : Program := fun args => do
  let (args, place) := inPlace args
  let g ← Task.options sedOptions args
  let mut scripts : List String := []
  for (c, text) in g.options do
    if c = 'e' then scripts := scripts ++ [text]
    if c = 'f' then
      match ← Task.readFile text with
      | .ok s => scripts := scripts ++ [if s.endsWith "\n" then (s.dropEnd 1).toString else s]
      | .error e => Task.fail 1 ("couldn't open file " ++ text ++ ": " ++ reason e)
  let given := g.has 'e' || g.has 'f'
  if !given && g.operands.isEmpty then
    Task.complainPlain "Usage: sed [OPTION]... \x7bscript-only-if-no-other-script\x7d [input-file]..."
    Task.quit 1
  let text := if given then "\n".intercalate scripts else g.operands.headD ""
  let paths := if given then g.operands else g.operands.tail
  let hushed := text = "#n" || text.startsWith "#n\n"
  let reader : Reader (Array Instruction) := do
    commands ((← fuel) + text.length) [] #[]
  match (ExceptT.run reader).run ⟨text.toList, 0, g.has 'E' || g.has 'r'⟩ |>.1 with
  | .error (n, message) =>
    Task.fail 1 ("-e expression #1, char " ++ toString n ++ ": " ++ message)
  | .ok script =>
    for i in script do
      if let .branch _ name := i.action then
        if name ≠ "" && target script name = script.size then
          Task.fail 4 ("can't find label for jump to \x60" ++ name ++ "'")
    let written := script.toList.filterMap fun i => match i.action with
      | .writeFile path => some path
      | .substitute s => s.file
      | _ => none
    saveFiles ((written.filter (· ≠ "/dev/stdout")).map fun path => (path, ""))
    let start := emptyRun (g.has 'n' || hushed) (if g.has 'z' then "\x00" else "\n")
    let mut code := 0
    match place with
    | some ending =>
      if paths.isEmpty then Task.fail 4 "no input files"
      for path in paths do
        match ← Task.ask fun t => t.status (Octets.path path) with
        | .ok (_, .file ..) =>
          match ← Task.readFile path with
          | .error _ => code := 4
          | .ok content =>
            let (goal, r) ← (cycles script (content.length + 2) true).run (start.start content)
            if ending ≠ "" then
              let copy := if ending.contains '*' then
                  (path.splitOn "/").getLastD "" |> ending.replace "*"
                else path ++ ending
              let _ ← Task.writeFile copy false content
            let _ ← Task.writeFile path false (String.join r.out.reverse)
            saveFiles r.files
            if let some n := goal then Task.quit n
        | .ok _ =>
          Task.complain ("couldn't edit " ++ path ++ ": not a regular file")
          code := 4
        | .error e =>
          Task.complain ("can't read " ++ path ++ ": " ++ reason e)
          code := 2
      return code
    | none =>
      let mut all := ""
      for path in if paths.isEmpty then ["-"] else paths do
        match ← Task.readFile path with
        | .ok s => all := (if all ≠ "" && !all.endsWith "\n" then all ++ "\n" else all) ++ s
        | .error (.system .isADirectory) =>
          Task.complain ("couldn't edit " ++ path ++ ": not a regular file")
          code := 2
        | .error e =>
          Task.complain ("can't read " ++ path ++ ": " ++ reason e)
          code := 2
      let (goal, r) ← (cycles script (2 * all.length + 2) true).run (start.start all)
      Task.say (String.join r.out.reverse)
      saveFiles r.files
      return goal.getD code

end PlcModule.Host.Edit
