import PlcModule.Document.Toml.Quoted
import PlcModule.Document.Toml.Scalar
import PlcModule.Document.Toml.Table

/-! TOML documents, version 1.1. A document is a sequence of headers and of keys with values;
the tables are put together in that order. Every reader answers what follows what it read. -/
namespace PlcModule.Document.Toml

def isSpace (c : Char) : Bool :=
  c == ' ' || c == '\t'

def skipTrivia (inComment : Bool) : List Char → Option (List Char)
  | [] => some []
  | c :: rest =>
    if c = '\n' then skipTrivia false rest
    else if c = '\r' then
      if rest.head? = some '\n' then skipTrivia false rest else none
    else if inComment then
      if isPlain c then skipTrivia true rest else none
    else if isSpace c then skipTrivia false rest
    else if c = '#' then skipTrivia true rest
    else some (c :: rest)

/-- Passes over the rest of a line that has to be blank but for a comment, and over the lines
like it that follow. -/
def endLine (cs : List Char) : Option (List Char) :=
  match cs.dropWhile isSpace with
  | [] => some []
  | c :: rest => if c = '#' || c = '\n' || c = '\r' then skipTrivia false (c :: rest) else none

def isBareKey (c : Char) : Bool :=
  c.isAlphanum || c == '_' || c == '-'

def name? (cs : List Char) : Option (String × List Char) :=
  match cs.takeWhile isBareKey with
  | [] => quotedLine? cs
  | run => some (String.ofList run, cs.dropWhile isBareKey)

/-- The names of a dotted key, at most `fuel` of them, with blanks around the dots and after. -/
def names? (fuel : Nat) (cs : List Char) : Option (List String × List Char) :=
  match fuel with
  | 0 => none
  | fuel + 1 => do
    let (name, rest) ← name? cs
    match rest.dropWhile isSpace with
    | '.' :: rest =>
      let (names, rest) ← names? fuel (rest.dropWhile isSpace)
      some (name :: names, rest)
    | rest => some ([name], rest)

/-- How many lists and inline tables may lie in one another, and how many names a key may have. -/
def depthLimit : Nat := 80

/-- A key at the front, as the names before the last and the last. -/
def key? (cs : List Char) : Option ((List String × String) × List Char) := do
  let (names, rest) ← names? depthLimit cs
  let last ← names.getLast?
  some ((names.dropLast, last), rest)

def isScalarChar (c : Char) : Bool :=
  isBareKey c || c == '+' || c == '.' || c == ':'

/-- A scalar without quotes. One blank may part a date from its time. -/
def bare? (cs : List Char) : Option (Value × List Char) := do
  let run := cs.takeWhile isScalarChar
  let rest := cs.dropWhile isScalarChar
  match rest with
  | ' ' :: more =>
    let time := more.takeWhile isScalarChar
    if (afterDate? run == some []) && isDate (run ++ ' ' :: time) then
      some (.date (String.ofList (run ++ ' ' :: time)), more.dropWhile isScalarChar)
    else (scalar? run).map (·, rest)
  | _ => (scalar? run).map (·, rest)

mutual

/-- A value that lies in `depth` lists and inline tables. The fuel bounds the steps. -/
def value? (fuel depth : Nat) (cs : List Char) : Option (Value × List Char) :=
  match fuel with
  | 0 => none
  | fuel + 1 =>
    match cs with
    | '[' :: rest =>
      if depth < depthLimit then items? fuel (depth + 1) [] rest else none
    | '\x7b' :: rest =>
      if depth < depthLimit then fields? fuel (depth + 1) [] rest else none
    | '"' :: _ | '\'' :: _ => (quoted? cs).map fun x => (.text (some x.1), x.2)
    | _ => bare? cs

/-- The rest of a list, with the items before held backwards. -/
def items? (fuel depth : Nat) (done : List Value) (cs : List Char) :
    Option (Value × List Char) :=
  match fuel with
  | 0 => none
  | fuel + 1 => do
    match ← skipTrivia false cs with
    | ']' :: rest => some (.list done.reverse, rest)
    | cs =>
      let (v, rest) ← value? fuel depth cs
      match ← skipTrivia false rest with
      | ',' :: rest => items? fuel depth (v :: done) rest
      | ']' :: rest => some (.list (v :: done).reverse, rest)
      | _ => none

def fields? (fuel depth : Nat) (done : Fields) (cs : List Char) : Option (Value × List Char) :=
  match fuel with
  | 0 => none
  | fuel + 1 => do
    match ← skipTrivia false cs with
    | '\x7d' :: rest => some (.record (fieldValues done), rest)
    | cs =>
      let ((path, name), rest) ← key? cs
      let rest ← after? '=' rest
      let (v, rest) ← value? fuel depth (rest.dropWhile isSpace)
      let done ← putValue path name v done
      match ← skipTrivia false rest with
      | ',' :: rest => fields? fuel depth done rest
      | '\x7d' :: rest => some (.record (fieldValues done), rest)
      | _ => none

end

def body? (fuel : Nat) (fields : Fields) (cs : List Char) : Option (Fields × List Char) :=
  match fuel with
  | 0 => none
  | fuel + 1 =>
    match cs with
    | [] => some (fields, [])
    | '[' :: rest => some (fields, '[' :: rest)
    | cs => do
      let ((path, name), rest) ← key? cs
      let rest := (← after? '=' rest).dropWhile isSpace
      let (v, rest) ← value? (2 * rest.length + 2) 0 rest
      body? fuel (← putValue path name v fields) (← endLine rest)

structure Header where
  isItem : Bool
  path : List String
  name : String

def header? (cs : List Char) : Option (Header × List Char) :=
  match cs with
  | '[' :: '[' :: rest => do
    let ((path, name), rest) ← key? (rest.dropWhile isSpace)
    let rest ← endLine (← after? ']' (← after? ']' rest))
    some (⟨true, path, name⟩, rest)
  | '[' :: rest => do
    let ((path, name), rest) ← key? (rest.dropWhile isSpace)
    let rest ← endLine (← after? ']' rest)
    some (⟨false, path, name⟩, rest)
  | _ => none

/-- Puts the parts of the rest of a document into the tables read so far. The keys of a
body are read once the table is known that they go into. -/
def parts? (fuel : Nat) (root : Fields) (cs : List Char) : Option Fields :=
  match fuel with
  | 0 => none
  | fuel + 1 =>
    match cs with
    | [] => some root
    | cs => do
      let (header, rest) ← header? cs
      let fill fields := (body? (rest.length + 1) fields rest).map Prod.fst
      let edit := if header.isItem then openItem header.name fill else openTable header.name fill
      let root ← descend header.path edit root
      let (_, rest) ← body? (rest.length + 1) [] rest
      parts? fuel root rest

/-- The value of a document, if the text is one. A byte order mark in front is passed over. -/
def parse (s : String) : Option Value := do
  let cs := match s.toList with
    | '\uFEFF' :: rest => rest
    | cs => cs
  let cs ← skipTrivia false cs
  let (root, rest) ← body? (cs.length + 1) [] cs
  (parts? (cs.length + 1) root rest).map fun fields => .record (fieldValues fields)

end PlcModule.Document.Toml
