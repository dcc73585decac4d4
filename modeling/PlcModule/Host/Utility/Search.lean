import PlcModule.Host.Regex
import PlcModule.Host.Utility.Names
import PlcModule.Host.Utility.Streams

/-! The programs that look for lines: in what they read, and for files in the tree. -/
namespace PlcModule.Host.Search

/-! ### Lines that match -/

/-- What is looked for, and how it has to lie in a line. -/
structure Query where
  patterns : List Regex
  foldCase : Bool
  wholeWords : Bool
  wholeLines : Bool

def Query.wanted (q : Query) (size : Nat) (start stop : Regex.Spot) : Bool :=
  (!q.wholeLines || (start.taken = 0 && stop.taken = size)) &&
    (!q.wholeWords ||
      (!start.previous.any Regex.isWord && !stop.left.head?.any Regex.isWord))

/-- The match in a line from an offset on: the first one, and the longest of those. -/
def Query.find? (q : Query) (line : Array Char) (offset : Nat) : Option Regex.Found :=
  (q.patterns.filterMap fun r =>
    Regex.searchWhere? q.foldCase (q.wanted line.size) r line offset).foldl (fun best f =>
      match best with
      | some b =>
        if f.start < b.start || (f.start = b.start && b.stop < f.stop) then some f else best
      | none => some f) none

/-- All matches in a line that are not empty. -/
def Query.all (q : Query) (line : Array Char) : Nat → Nat → List (Nat × String)
  | 0, _ => []
  | n + 1, offset =>
    match q.find? line offset with
    | none => []
    | some f =>
      if f.stop ≤ f.start then q.all line n (f.start + 1)
      else (f.start, String.ofList (line.extract f.start f.stop).toList) :: q.all line n f.stop

structure Style where
  count : Bool
  quiet : Bool
  list : Bool
  listOthers : Bool
  numbers : Bool
  named : Bool
  parts : Bool
  offsets : Bool
  inverted : Bool
  limit : Option Nat
  before : Nat
  after : Nat
  asText : Bool

/-- A line that is shown, with its number, its offset, and whether it matched. -/
structure Shown where
  number : Nat
  offset : Nat
  line : String
  matched : Bool

def Style.front (s : Style) (name : String) (x : Shown) (mark : String) : String :=
  (if s.named then name ++ mark else "") ++
    (if s.numbers then toString x.number ++ mark else "") ++
    (if s.offsets then toString x.offset ++ mark else "")

def numbered (number offset : Nat) : List String → List (Nat × Nat × String)
  | [] => []
  | line :: rest => (number, offset, line) :: numbered (number + 1) (offset + line.length + 1) rest

/-- The lines that match, up to a limit. -/
def Style.select (s : Style) (q : Query) (lines : List (Nat × Nat × String)) : List Shown :=
  let all := lines.filterMap fun x =>
    if (q.find? x.2.2.toList.toArray 0).isSome != s.inverted then some ⟨x.1, x.2.1, x.2.2, true⟩
    else none
  match s.limit with
  | some n => all.take n
  | none => all

/-- The text for the lines around those that match. -/
def Style.withContext (s : Style) (name : String) (lines : List (Nat × Nat × String))
    (chosen : List Shown) : String :=
  let isChosen (n : Nat) : Bool := chosen.any fun x => x.number = n
  let isNear (n : Nat) : Bool :=
    chosen.any fun x => (n ≤ x.number && x.number ≤ n + s.before) ||
      (x.number ≤ n && n ≤ x.number + s.after)
  let shown := lines.filter fun x => isNear x.1
  (shown.foldl (fun (text, last) x =>
    let gap := last ≠ 0 && last + 1 ≠ x.1
    let mark := if isChosen x.1 then ":" else "-"
    (text ++ (if gap then "--\n" else "") ++
      s.front name ⟨x.1, x.2.1, x.2.2, true⟩ mark ++ x.2.2 ++ "\n", x.1)) ("", 0)).1

/-- Looks through a text. Answers whether anything was found. -/
def Style.search (s : Style) (q : Query) (name path text : String) : Task Bool := do
  let lines := numbered 1 0 (Lines.of text)
  let chosen := s.select q lines
  let found := !chosen.isEmpty
  if s.quiet then return found
  if s.list then
    if found then Task.sayLine name
  else if s.listOthers then
    if !found then Task.sayLine name
  else if s.count then
    Task.sayLine ((if s.named then name ++ ":" else "") ++ toString chosen.length)
  else if found && !s.asText && text.toList.contains '\x00' then
    Task.complain ((if path = "-" then "(standard input)" else path) ++ ": binary file matches")
  else if s.parts then
    if !s.inverted then
      for x in chosen do
        let line := x.line.toList.toArray
        for (start, part) in q.all line (line.size + 1) 0 do
          Task.sayLine (s.front name { x with offset := x.offset + start } ":" ++ part)
  else if s.before = 0 && s.after = 0 then
    Task.say (Lines.join (chosen.map fun x => s.front name x ":" ++ x.line))
  else Task.say (s.withContext name lines chosen)
  return found

/-- The files below a path, in order. -/
def filesBelow (t : FileTree) : Nat → String → List String
  | 0, _ => []
  | n + 1, path =>
    match t.status (Octets.path path) with
    | .ok (l, .directory) =>
      let names := ((t.children l).map fun x => Octets.encode x.1).mergeSort fun a b => a ≤ b
      names.flatMap fun name => filesBelow t n (Names.inside path name)
    | .ok _ => [path]
    | .error _ => [path]

def searchUsage : String := "Usage: grep [OPTION]... PATTERNS [FILE]..."

def searchOptions : OptionSet where
  letters := "aEFGchHilLnoqrRsvwxybZUuzPT"
  arguments := "efmABCdDIX"
  misuse := 2
  usage := searchUsage
  words := [("regexp", 'e'), ("file", 'f'), ("max-count", 'm'), ("after-context", 'A'),
    ("before-context", 'B'), ("context", 'C'), ("count", 'c'), ("ignore-case", 'i'), ("quiet", 'q'),
    ("silent", 'q'), ("invert-match", 'v'), ("line-number", 'n'), ("only-matching", 'o'),
    ("extended-regexp", 'E'), ("fixed-strings", 'F'), ("recursive", 'r'), ("no-messages", 's'),
    ("word-regexp", 'w'), ("line-regexp", 'x'), ("files-with-matches", 'l'), ("no-filename", 'h'),
    ("with-filename", 'H'), ("text", 'a'), ("include", 'I'), ("color", 'T'), ("exclude", 'X')]

/-- A number of lines after a dash, in place of an option for the lines around. -/
def contextArgs (args : List String) : List String :=
  args.map fun a =>
    match a.toList with
    | '-' :: c :: ds => if (c :: ds).all Char.isDigit then "-C" ++ String.ofList (c :: ds) else a
    | _ => a

def grep (kind : Option Char) : Program := fun args => do
  modify fun p => { p with name := "grep" }
  let g ← Task.options searchOptions (contextArgs args)
  let given := g.options.filter fun x => x.1 = 'e' || x.1 = 'f'
  if given.isEmpty && g.operands.isEmpty then Task.hint 2 searchUsage
  let mut texts : List String := []
  for (c, text) in given do
    if c = 'e' then texts := texts ++ text.splitOn "\n"
    else match ← Task.readFile text with
      | .ok s => texts := texts ++ Lines.of s
      | .error e => Task.fail 2 (text ++ ": " ++ reason e)
  let paths := if given.isEmpty then g.operands.tail else g.operands
  if given.isEmpty then texts := (g.operands.headD "").splitOn "\n"
  let kind := (g.last? "EFGP").orElse fun _ => kind
  let read (text : String) : Task Regex := do
    if kind = some 'F' then return Regex.literal text.toList
    match Regex.parse (kind = some 'E' || kind = some 'P') text.toList with
    | .ok r => return r
    | .error message => Task.fail 2 message
  let patterns ← texts.mapM read
  let q : Query := ⟨patterns, g.has 'i' || g.has 'y', g.has 'w', g.has 'x'⟩
  let number (c : Char) : Option Nat := (g.value? c).bind Numeral.count?
  if g.has 'm' && (number 'm').isNone then Task.fail 2 "invalid max count"
  let around := (number 'C').getD 0
  let deep := g.has 'r' || g.has 'R'
  let roots := if paths.isEmpty then [if deep then "." else "-"] else paths
  let files ← if deep then
      Task.ask fun t => roots.flatMap fun root =>
        let found := filesBelow t 100 root
        if paths.isEmpty then found.map fun f => (f.drop 2).toString else found
    else pure roots
  let dir (path : String) : Task Bool := Task.ask fun t => t.isDirectory (Octets.path path)
  let severalRoots ← roots.anyM dir
  let named := match g.last? "hH" with
    | some 'h' => false
    | some _ => true
    | none => 1 < roots.length || (deep && severalRoots)
  let s : Style := ⟨g.has 'c', g.has 'q', g.has 'l', g.has 'L', g.has 'n', named, g.has 'o',
    g.has 'b', g.has 'v', number 'm', (number 'B').getD around, (number 'A').getD around, g.has 'a'⟩
  let mut found := false
  let mut trouble := false
  for path in files do
    let name := if path = "-" then "(standard input)" else path
    match ← Task.readFile path with
    | .ok text => if ← s.search q name path text then found := true
    | .error e =>
      trouble := true
      if !g.has 's' then Task.complain (path ++ ": " ++ reason e)
  if trouble && !(s.quiet && found) then return 2
  return if found then 0 else 1

end PlcModule.Host.Search
