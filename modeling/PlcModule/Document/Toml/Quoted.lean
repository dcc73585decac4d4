import PlcModule.Document.Json

/-! Quoted texts of TOML documents: with escapes or without, on one line or on several. Each
reader starts after the opening quotes and answers the text and what follows the closing ones. -/
namespace PlcModule.Document.Toml

/-- What may stand in a text or comment as it is: tabs, and all but control characters. -/
def isPlain (c : Char) : Bool :=
  c == '\t' || 0x20 ≤ c.toNat && c.toNat != 0x7F

/-- The character of `count` hexadecimal digits at the front of the text. -/
def hexChar? (count : Nat) (cs : List Char) : Option Char := do
  let digits := cs.take count
  let n ← Json.hexNumber? digits
  if digits.length = count && n.isValidChar then some (Char.ofNat n) else none

/-- The character of an escape whose backslash has been read, and how long the escape is. -/
def escape? : List Char → Option (Char × Nat)
  | [] => none
  | c :: rest =>
    if c = 'x' then (hexChar? 2 rest).map (·, 3)
    else if c = 'u' then (hexChar? 4 rest).map (·, 5)
    else if c = 'U' then (hexChar? 8 rest).map (·, 9)
    else if c = 'e' then some ('\x1b', 1)
    else if c = '/' then none
    else (Json.escaped? c).map (·, 1)

/-- Passes over the first `skip` characters, then reads a text on one line. -/
def readLine (escapes : Bool) (quote : Char) (skip : Nat) (done : List Char) :
    List Char → Option (String × List Char)
  | [] => none
  | c :: rest =>
    match skip with
    | k + 1 => readLine escapes quote k done rest
    | 0 =>
      if c = quote then some (String.ofList done.reverse, rest)
      else if escapes && c = '\\' then
        match escape? rest with
        | some (e, length) => readLine escapes quote length (e :: done) rest
        | none => none
      else if isPlain c then readLine escapes quote 0 (c :: done) rest
      else none

/-- How many characters of blanks and line ends stand at the front. -/
def gap : List Char → Nat
  | [] => 0
  | '\r' :: '\n' :: rest => gap rest + 2
  | c :: rest => if c = ' ' || c = '\t' || c = '\n' then gap rest + 1 else 0

/-- Whether the line ends here but for blanks. -/
def endsLine (cs : List Char) : Bool :=
  match cs.dropWhile fun c => c == ' ' || c == '\t' with
  | '\n' :: _ => true
  | '\r' :: '\n' :: _ => true
  | _ => false

/-- Passes over the first `skip` characters, then reads a text on several lines. Up to two
quotes more than the three that close it belong to the text; a backslash at the end of a line
takes away the blanks and line ends up to the next character. -/
def readLines (escapes : Bool) (quote : Char) (skip : Nat) (done : List Char) :
    List Char → Option (String × List Char)
  | [] => none
  | c :: rest =>
    match skip with
    | k + 1 => readLines escapes quote k done rest
    | 0 =>
      if c = quote then
        let quotes := ((c :: rest).takeWhile (· == quote)).length
        if quotes < 3 then readLines escapes quote 0 (c :: done) rest
        else
          let extra := min (quotes - 3) 2
          some (String.ofList (List.replicate extra quote ++ done).reverse, rest.drop (extra + 2))
      else if escapes && c = '\\' then
        if endsLine rest then readLines escapes quote (gap rest) done rest
        else match escape? rest with
          | some (e, length) => readLines escapes quote length (e :: done) rest
          | none => none
      else if isPlain c || c = '\n' || (c = '\r' && rest.head? == some '\n') then
        readLines escapes quote 0 (c :: done) rest
      else none

/-- Drops a line end right after the opening quotes. -/
def dropLineEnd : List Char → List Char
  | '\n' :: rest => rest
  | '\r' :: '\n' :: rest => rest
  | cs => cs

/-- A text in quotes at the front, of either kind, on one line. -/
def quotedLine? : List Char → Option (String × List Char)
  | '"' :: rest => readLine true '"' 0 [] rest
  | '\'' :: rest => readLine false '\'' 0 [] rest
  | _ => none

/-- A text in quotes at the front, of any kind. -/
def quoted? : List Char → Option (String × List Char)
  | '"' :: '"' :: '"' :: rest => readLines true '"' 0 [] (dropLineEnd rest)
  | '\'' :: '\'' :: '\'' :: rest => readLines false '\'' 0 [] (dropLineEnd rest)
  | cs => quotedLine? cs

end PlcModule.Document.Toml
