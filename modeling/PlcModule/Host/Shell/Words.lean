import PlcModule.Host.Shell.Source

/-! How the words of a script are read. -/
namespace PlcModule.Host.Shell

/-- Where in a list of commands the reader is. -/
inductive Nesting where
  /-- At the top, where a line end closes the list. -/
  | line
  /-- Where there has to be a command. -/
  | body
  /-- Where the list may be empty. -/
  | perhaps
  deriving DecidableEq, Repr

/-- The readers of what may stand inside of words and commands. -/
structure Grammar where
  list : Nesting → Read Command
  command : Read Command

/-- What a word stands in. -/
inductive Setting where
  /-- Ends at a blank or an operator. -/
  | bare
  /-- The same, where a dollar sign stands for itself. -/
  | mark
  | quotes
  /-- In the braces of a parameter. -/
  | braces
  /-- In braces that stand in quotes or in a document. Quotes within them hide the closing brace. -/
  | quotedBraces (hidden inDocument : Bool)
  /-- In a calculation, with so many brackets open. -/
  | formula (depth : Nat)
  /-- In lines up to a mark. -/
  | document (mark : List Char) (dropsTabs : Bool)

def Setting.isQuoted : Setting → Bool
  | bare | mark | braces => false
  | _ => true

def Setting.isInDocument : Setting → Bool
  | document .. => true
  | quotedBraces _ inDocument => inDocument
  | _ => false

def isNameStart (c : Char) : Bool :=
  c.isAlpha || c == '_'

def isNameChar (c : Char) : Bool :=
  c.isAlphanum || c == '_'

def isName (s : String) : Bool :=
  match s.toList with
  | c :: rest => isNameStart c && rest.all isNameChar
  | [] => false

/-- A parameter that one sign names. -/
def isSpecial (c : Char) : Bool :=
  "@*#?$!-".contains c

def backQuote : Char := '\x60'

/-- Whether a character ends a word that it does not stand quoted in. -/
def endsWord (c : Char) : Bool :=
  " \t\n;&|<>()".contains c

/-- The character of a piece that stands for itself without quotes. -/
def Part.plain? : Part → Option Char
  | .char c false => some c
  | _ => none

def Part.isQuoted : Part → Bool
  | .char _ q => q
  | .quotes => true
  | .parameter _ _ q => q
  | .output _ q => q
  | .number _ q => q

/-- A piece whose quotes count for nothing where it is expanded. -/
def Part.unquoted : Part → Part
  | .parameter name edit _ => .parameter name edit false
  | .output body _ => .output body false
  | .number formula _ => .number formula false
  | part => part

/-- The text of a word that is written without quotes and stands for itself. -/
def plainText (w : Word) : Option String :=
  (w.mapM Part.plain?).map String.ofList

/-- The text of a word in which nothing is expanded. -/
def literalText (w : Word) : List Char :=
  w.filterMap fun
    | .char c _ => some c
    | _ => none

/-- The text up to a single quote. -/
def readSingle : Nat → List Char → Read (List Char)
  | 0, _ => throw "Unterminated quoted string"
  | n + 1, done => do
    match ← Read.peekRaw with
    | none => throw "Unterminated quoted string"
    | some c =>
      Read.skip
      if c = '\'' then return done.reverse else readSingle n (c :: done)

/-- The text up to a back quote, in which a backslash may hide one. -/
def readBack (quoted : Bool) : Nat → List Char → Read (List Char)
  | 0, _ => throw "EOF in backquote substitution"
  | n + 1, done => do
    match ← Read.peek with
    | none => throw "EOF in backquote substitution"
    | some c =>
      Read.skip
      if c = backQuote then return done.reverse
      else if c = '\\' then
        match ← Read.peekRaw with
        | none => throw "EOF in backquote substitution"
        | some e =>
          Read.skip
          if e = '\\' || e = backQuote || e = '$' || (quoted && e = '"') then
            readBack quoted n (e :: done)
          else readBack quoted n (e :: '\\' :: done)
      else readBack quoted n (c :: done)

/-- Reads commands from a text of its own. -/
def readApart (g : Grammar) (text : List Char) : Read Command := do
  let s ← get
  set { s with rest := text, line := 1, pushed := false, pending := [] }
  let body ← g.list .perhaps
  modify fun inner => { s with documents := inner.documents, nextDocument := inner.nextDocument }
  return body

/-- What a piece is made of that stands between back quotes. -/
def readBackQuoted (g : Grammar) (quoted : Bool) : Read Part := do
  let text ← readBack quoted ((← get).rest.length + 1) []
  return .output (← readApart g text) quoted

/-- Takes the mark that ends lines off the front, if it stands there alone on its line. -/
def afterMark? (mark : List Char) (cs : List Char) : Option (List Char) :=
  if mark.isPrefixOf cs then
    match cs.drop mark.length with
    | [] => some []
    | '\n' :: rest => some rest
    | _ => none
  else none

/-- At the start of a line of a document. Answers whether the document ends here. -/
def startLine (mark : List Char) (dropsTabs : Bool) : Read Bool := do
  let s ← get
  let cs := if dropsTabs then s.rest.dropWhile (· = '\t') else s.rest
  match afterMark? mark cs with
  | some rest =>
    set { s with rest, line := s.line + 1 }
    return true
  | none =>
    set { s with rest := cs }
    return false

/-- Whether a document ends where its reader is, after some pieces held backwards. -/
def documentEnds (mark : List Char) (dropsTabs : Bool) (done : List Part) : Read Bool :=
  match done with
  | [] | .char '\n' true :: _ => startLine mark dropsTabs
  | _ => return false

/-- The lines up to a mark, as they stand. -/
def readLiteral (mark : List Char) (dropsTabs : Bool) : Nat → List Part → Read Word
  | 0, done => return done.reverse
  | n + 1, done => do
    if ← documentEnds mark dropsTabs done then return done.reverse
    match ← Read.peekRaw with
    | none => return done.reverse
    | some c =>
      Read.skip
      readLiteral mark dropsTabs n (.char c true :: done)

/-- What an operator in braces makes of a parameter, and whether a word follows it. The word
of a pattern is not quoted by quotes around the braces. -/
inductive Operator where
  | closed (edit : Edit)
  | missing (orEmpty : Bool) (fallback : Fallback)
  | cut (atEnd longest : Bool)
  | senseless

def fallback? : Char → Option Fallback
  | '-' => some .use
  | '=' => some .assign
  | '?' => some .complain
  | '+' => some .replace
  | _ => none

/-- The operator after a name in braces. -/
def readOperator : Read Operator := do
  match ← Read.peek with
  | none => return .senseless
  | some c =>
    Read.skip
    if c = '\x7d' then return .closed .keep
    else if c = '%' || c = '#' then
      return .cut (c = '%') (← Read.skipIf c)
    else if c = ':' then
      match ← Read.peek with
      | some d =>
        Read.skip
        return ((fallback? d).map (Operator.missing true)).getD .senseless
      | none => return .senseless
    else return ((fallback? c).map (Operator.missing false)).getD .senseless

/-- The name of a parameter in braces, or nothing if there is none. -/
def readName : Read (Option String) := do
  match ← Read.peek with
  | none => return none
  | some c =>
    if isNameStart c then return some (← Read.run isNameChar)
    else if c.isDigit then return some (← Read.run Char.isDigit)
    else if isSpecial c then
      Read.skip
      return some (String.singleton c)
    else return none

/-- What stands in braces up to a word. A sharp in front asks for the length, unless it is
itself the parameter. -/
def readBraces : Read (String × Operator) := do
  let s ← get
  if ← Read.skipIf '#' then
    match ← readName with
    | some name =>
      if ← Read.skipIf '\x7d' then return (name, .closed .length)
      if name = "#" || name = "?" || name = "-" then
        set s
        Read.skip
        return ("#", ← readOperator)
      return (name, .senseless)
    | none => return ("#", ← readOperator)
  else
    match ← readName with
    | some name => return (name, ← readOperator)
    | none => return ("", .senseless)

/-- Reads the pieces of a word, with those read so far held backwards. -/
def readParts (g : Grammar) : Nat → Setting → List Part → Read Word
  | 0, _, done => return done.reverse
  | n + 1, setting, done => do
    let quoted := setting.isQuoted
    let put (c : Char) : Read Word := do
      Read.skip
      readParts g n setting (.char c quoted :: done)
    if let .document mark dropsTabs := setting then
      if ← documentEnds mark dropsTabs done then return done.reverse
    match ← Read.peek with
    | none =>
      match setting with
      | .bare | .mark | .document .. => return done.reverse
      | .quotes => throw "Unterminated quoted string"
      | .braces => throw "Missing '\x7d'"
      | .quotedBraces _ inDocument =>
        throw (if inDocument then "Missing '\x7d'" else "Unterminated quoted string")
      | .formula _ => throw "Missing '))'"
    | some c =>
      match setting, c with
      | .quotes, '"' =>
        Read.skip
        return if done.isEmpty then [.quotes] else done.reverse
      | .quotedBraces hidden inDocument, '"' =>
        Read.skip
        readParts g n (.quotedBraces (!hidden) inDocument) done
      | .braces, '\x7d' | .quotedBraces false _, '\x7d' =>
        Read.skip
        return done.reverse
      | .formula depth, '(' =>
        Read.skip
        readParts g n (.formula (depth + 1)) (.char c true :: done)
      | .formula depth, ')' =>
        Read.skip
        if 0 < depth then readParts g n (.formula (depth - 1)) (.char c true :: done)
        else if ← Read.skipIf ')' then return done.reverse
        else readParts g n setting (.char c true :: done)
      | _, '\\' =>
        Read.skip
        match ← Read.peekRaw with
        | none => readParts g n setting (.char '\\' true :: done)
        | some e =>
          Read.skip
          let hides := match setting with
            | .bare | .mark | .braces => true
            | .quotes | .formula _ => "\\$\"".contains e || e = backQuote
            | .quotedBraces .. => "\\$\"\x7d".contains e || e = backQuote
            | .document .. => "\\$".contains e || e = backQuote
          if hides then readParts g n setting (.char e true :: done)
          else readParts g n setting (.char e true :: .char '\\' true :: done)
      | _, '$' =>
        match setting with
        | .mark => put c
        | _ =>
          Read.skip
          let inner : Setting :=
            if quoted then .quotedBraces false setting.isInDocument else .braces
          match ← Read.peek with
          | some '(' =>
            Read.skip
            if ← Read.skipIf '(' then
              let formula ← readParts g n (.formula 0) []
              readParts g n setting (.number formula quoted :: done)
            else
              let saved := (← get).pending
              modify fun s => { s with pending := [] }
              let body ← g.list .perhaps
              let s ← get
              set { s with pushed := false, pending := saved }
              match s.last with
              | .operator ")" => readParts g n setting (.output body quoted :: done)
              | _ => Read.unexpected "\")\""
          | some '\x7b' =>
            Read.skip
            let (name, operator) ← readBraces
            match operator with
            | .closed edit => readParts g n setting (.parameter name edit quoted :: done)
            | .missing orEmpty fallback =>
              let word ← readParts g n inner []
              readParts g n setting (.parameter name (.missing orEmpty fallback word) quoted :: done)
            | .cut atEnd longest =>
              let pattern ← readParts g n .braces []
              let pattern := if setting.isInDocument then pattern.map Part.unquoted else pattern
              readParts g n setting (.parameter name (.cut atEnd longest pattern) quoted :: done)
            | .senseless =>
              let _ ← readParts g n inner []
              readParts g n setting (.parameter name .senseless quoted :: done)
          | some d =>
            if isNameStart d then
              let name ← Read.run isNameChar
              readParts g n setting (.parameter name .keep quoted :: done)
            else if isSpecial d || d.isDigit then
              Read.skip
              readParts g n setting (.parameter (String.singleton d) .keep quoted :: done)
            else readParts g n setting (.char '$' quoted :: done)
          | none => readParts g n setting (.char '$' quoted :: done)
      | _, _ =>
        if c = backQuote then
          match setting with
          | .mark => put c
          | _ =>
            Read.skip
            let part ← readBackQuoted g quoted
            readParts g n setting (part :: done)
        else match setting with
          | .bare | .mark =>
            if endsWord c then return done.reverse
            else if c = '\'' then
              Read.skip
              let text ← readSingle n []
              let parts := if text.isEmpty then [.quotes] else text.map (Part.char · true)
              readParts g n setting (parts.reverse ++ done)
            else if c = '"' then
              Read.skip
              let parts ← readParts g n .quotes []
              readParts g n setting (parts.reverse ++ done)
            else put c
          | .braces =>
            if c = '\'' then
              Read.skip
              let text ← readSingle n []
              let parts := if text.isEmpty then [.quotes] else text.map (Part.char · true)
              readParts g n setting (parts.reverse ++ done)
            else if c = '"' then
              Read.skip
              let parts ← readParts g n .quotes []
              readParts g n setting (parts.reverse ++ done)
            else put c
          | _ => put c

end PlcModule.Host.Shell
