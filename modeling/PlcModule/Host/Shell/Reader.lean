import PlcModule.Host.Shell.Words

/-! How commands are read. The readers of nested lists are handed in, and `grammar` ties them
together up to a depth. -/
namespace PlcModule.Host.Shell

namespace Token

def keywords : List String :=
  ["!", "\x7b", "\x7d", "case", "do", "done", "elif", "else", "esac", "fi", "for", "if", "in",
    "then", "until", "while"]

/-- A token that ends a list of commands. -/
def endsList : Token → Bool
  | ending => true
  | keyword s => ["\x7d", "do", "done", "elif", "else", "esac", "fi", "then"].contains s
  | operator s => s = ")" || s = ";;"
  | _ => false

def isOperator (t : Token) (s : String) : Bool :=
  match t with
  | operator o => o = s
  | _ => false

def isKeyword (t : Token) (s : String) : Bool :=
  match t with
  | keyword k => k = s
  | _ => false

end Token

/-- What is asked of a token. -/
structure Wants where
  keywords : Bool
  aliases : Bool
  /-- Passes over line ends. -/
  lineEnds : Bool

def Wants.none : Wants := ⟨false, false, false⟩

/-- At the start of a command. -/
def Wants.command : Wants := ⟨true, true, false⟩

/-- At the start of a command that may come on a later line. -/
def Wants.later : Wants := ⟨true, true, true⟩

/-- Takes in the lines that redirections wait for. -/
def readDocuments (g : Grammar) : Read Unit := do
  let pending := (← get).pending
  modify fun s => { s with pending := [] }
  for p in pending do
    let fuel := (← get).rest.length + 2
    let document ←
      if p.literal then readLiteral p.mark p.dropsTabs fuel []
      else readParts g fuel (.document p.mark p.dropsTabs) []
    modify fun s => { s with documents := (p.number, document) :: s.documents }

/-- Passes over the rest of a line. -/
def skipComment : Read Unit :=
  modify fun s => { s with rest := s.rest.dropWhile (· ≠ '\n') }

/-- The sign of a redirection, after its first character. -/
def readSign (c : Char) : Read String := do
  if c = '>' then
    if ← Read.skipIf '>' then return ">>"
    if ← Read.skipIf '|' then return ">|"
    if ← Read.skipIf '&' then return ">&"
    return ">"
  else
    if ← Read.skipIf '<' then
      return if ← Read.skipIf '-' then "<<-" else "<<"
    if ← Read.skipIf '&' then return "<&"
    if ← Read.skipIf '>' then return "<>"
    return "<"

/-- A token that begins with a word, which may turn out to be the digit of a redirection. -/
def readWordToken (g : Grammar) (setting : Setting) : Read Token := do
  let parts ← readParts g ((← get).rest.length + 2) setting []
  match ← Read.peek with
  | some c =>
    if c = '<' || c = '>' then
      match parts with
      | [] =>
        Read.skip
        return .redirect none (← readSign c)
      | [.char d false] =>
        if d.isDigit then
          Read.skip
          return .redirect (some (d.toNat - 0x30)) (← readSign c)
        else return .word parts
      | _ => return .word parts
    else return .word parts
  | none => return .word parts

/-- The next token as it stands in the text. -/
def readPlain (g : Grammar) (setting : Setting) : Nat → Read Token
  | 0 => return .ending
  | n + 1 => do
    match ← Read.peek with
    | none => return .ending
    | some c =>
      if c = ' ' || c = '\t' then
        Read.skip
        readPlain g setting n
      else if c = '#' then
        skipComment
        readPlain g setting n
      else if c = '\n' then
        Read.skip
        return .lineEnd
      else if c = '&' || c = '|' || c = ';' then
        Read.skip
        return .operator (if ← Read.skipIf c then String.ofList [c, c] else String.singleton c)
      else if c = '(' || c = ')' then
        Read.skip
        return .operator (String.singleton c)
      else readWordToken g setting

/-- The next token, which is the last one again if that was pushed back. -/
def readNext (g : Grammar) (setting : Setting) : Read Token := do
  let s ← get
  if s.pushed then
    set { s with pushed := false }
    return s.last
  let t ← readPlain g setting (s.rest.length + 1)
  modify fun s => { s with last := t }
  return t

/-- The value of an alias, unless its own value is being read. -/
def alias? (name : String) : Read (Option String) := do
  let s ← get
  let inUse := s.inUse.filter fun x => x.2 < s.rest.length
  set { s with inUse }
  if inUse.any fun x => x.1 = name then return none
  return s.aliases.lookup name

/-- The next token in the light of what is asked of it. -/
def readToken (g : Grammar) (wants : Wants) : Nat → Read Token
  | 0 => return .ending
  | n + 1 => do
    let t ← readNext g .bare
    match t with
    | .lineEnd =>
      if wants.lineEnds then
        readDocuments g
        readToken g wants n
      else return t
    | .word w =>
      match plainText w with
      | none => return t
      | some s =>
        if wants.keywords && Token.keywords.contains s then
          modify fun src => { src with last := .keyword s }
          return .keyword s
        if wants.aliases then
          match ← alias? s with
          | some value =>
            modify fun src => { src with inUse := (s, src.rest.length) :: src.inUse }
            Read.putBack value.toList
            readToken g wants n
          | none => return t
        else return t
    | _ => return t

def token (g : Grammar) (wants : Wants) : Read Token := do
  readToken g wants ((← get).rest.length + 64)

/-- Passes over a token that has to come next. -/
def expect (g : Grammar) (wants : Wants) (keyword : String) : Read Unit := do
  let t ← token g wants
  if t.isKeyword keyword then return
  Read.unexpected ("\"" ++ keyword ++ "\"")

def expectOperator (g : Grammar) (operator : String) : Read Unit := do
  let t ← token g .none
  if t.isOperator operator then return
  Read.unexpected ("\"" ++ operator ++ "\"")

/-- The redirection that a sign begins. -/
def readRedirect (g : Grammar) (descriptor : Option Nat) (sign : String) : Read Redirect := do
  let here := sign = "<<" || sign = "<<-"
  let t ← readNext g (if here then .mark else .bare)
  match t with
  | .word w =>
    if here then
      let s ← get
      let number := s.nextDocument
      let p : Pending := ⟨number, literalText w, sign = "<<-", w.any Part.isQuoted⟩
      set { s with nextDocument := number + 1, pending := s.pending ++ [p] }
      return .document (descriptor.getD 0) number
    else match sign with
      | "<" => return .file (descriptor.getD 0) .read w
      | "<>" => return .file (descriptor.getD 0) .both w
      | "<&" => return .same (descriptor.getD 0) w
      | ">&" => return .same (descriptor.getD 1) w
      | ">>" => return .file (descriptor.getD 1) .append w
      | ">|" => return .file (descriptor.getD 1) .force w
      | _ => return .file (descriptor.getD 1) .write w
  | _ => Read.unexpected ""

/-- What a word sets, if it is a name followed by an equals sign. -/
def setting? (w : Word) : Option (String × Word) :=
  let name := w.takeWhile fun part => part.plain?.any (· ≠ '=')
  match plainText name, w.drop name.length with
  | some s, .char '=' false :: value => if isName s then some (s, value) else none
  | _, _ => none

def specialNames : List String :=
  [".", ":", "break", "continue", "eval", "exec", "exit", "export", "readonly", "return", "set",
    "shift", "times", "trap", "unset"]

/-- The rest of a function, after the bracket that opens behind its name. -/
def readFunction (g : Grammar) (name : Word) : Read Command := do
  expectOperator g ")"
  match plainText name with
  | some s =>
    if isName s && !specialNames.contains s then
      let _ ← token g .later
      Read.push
      return .define s (← g.command)
    else throw "Bad function name"
  | none => throw "Bad function name"

/-- A simple command, with what has been read of it held backwards. -/
def readSimple (g : Grammar) (line : Nat) : Nat → List (String × Word) → List Word →
    List Redirect → Read Command
  | 0, settings, words, redirects =>
    return .simple line settings.reverse words.reverse redirects.reverse
  | n + 1, settings, words, redirects => do
    let t ← token g ⟨false, words.isEmpty, false⟩
    match t with
    | .word w =>
      match if words.isEmpty then setting? w else none with
      | some s => readSimple g line n (s :: settings) words redirects
      | none => readSimple g line n settings (w :: words) redirects
    | .redirect d sign =>
      let r ← readRedirect g d sign
      readSimple g line n settings words (r :: redirects)
    | _ =>
      match t.isOperator "(", words, settings, redirects with
      | true, [name], [], [] => readFunction g name
      | _, _, _, _ =>
        Read.push
        return .simple line settings.reverse words.reverse redirects.reverse

/-- The redirections after a command in brackets. -/
def readRedirects (g : Grammar) : Nat → List Redirect → Read (List Redirect)
  | 0, done => return done.reverse
  | n + 1, done => do
    match ← token g .command with
    | .redirect d sign =>
      let r ← readRedirect g d sign
      readRedirects g n (r :: done)
    | _ =>
      Read.push
      return done.reverse

/-- The words after `in`, up to the end of the line or a semicolon. -/
def readWords (g : Grammar) : Nat → List Word → Read (List Word)
  | 0, done => return done.reverse
  | n + 1, done => do
    match ← token g .none with
    | .word w => readWords g n (w :: done)
    | .lineEnd => return done.reverse
    | t => if t.isOperator ";" then return done.reverse else Read.unexpected ""

/-- The alternatives after a condition, up to the word that closes them. -/
def readElse (g : Grammar) : Nat → Read Command
  | 0 => return .nothing
  | n + 1 => do
    let t ← token g .none
    if t.isKeyword "elif" then
      let test ← g.list .body
      expect g .none "then"
      let yes ← g.list .body
      return .choose test yes (← readElse g n)
    else if t.isKeyword "else" then g.list .body
    else
      Read.push
      return .nothing

def wordOf (t : Token) : Word :=
  match t with
  | .word w => w
  | .keyword s => s.toList.map (Part.char · false)
  | _ => []

/-- The patterns of an arm, up to the bracket that closes them. -/
def readPatterns (g : Grammar) : Nat → Word → List Word → Read (List Word)
  | 0, _, done => return done.reverse
  | n + 1, first, done => do
    let t ← token g .none
    if t.isOperator "|" then
      let next ← token g .none
      readPatterns g n (wordOf next) (first :: done)
    else if t.isOperator ")" then return (first :: done).reverse
    else Read.unexpected "\")\""

/-- The arms of a selection, up to the word that closes it. -/
def readArms (g : Grammar) : Nat → List (List Word × Command) → Read (List (List Word × Command))
  | 0, done => return done.reverse
  | n + 1, done => do
    let t ← token g ⟨true, false, true⟩
    if t.isKeyword "esac" then return done.reverse
    let first ← if t.isOperator "(" then token g .none else pure t
    let patterns ← readPatterns g ((← get).rest.length + 1) (wordOf first) []
    let body ← g.list .perhaps
    let done := (patterns, body) :: done
    let t ← token g ⟨true, false, true⟩
    if t.isKeyword "esac" then return done.reverse
    else if t.isOperator ";;" then readArms g n done
    else Read.unexpected "\";;\""

/-- The word that stands for all arguments. -/
def allArguments : Word :=
  [.parameter "@" .keep true]

/-- A command with redirections behind it. They replace those that a subshell has by itself. -/
def redirected (line : Nat) (body : Command) (redirects : List Redirect) : Command :=
  if redirects.isEmpty then body
  else match body with
    | .subshell at_ inner _ => .subshell at_ inner redirects
    | body => .redirected line body redirects

/-- A command, simple or not. -/
def readCommand (g : Grammar) : Read Command := do
  let t ← token g .command
  let s ← get
  let line := s.line
  let fuel := s.rest.length + 2
  let close (keyword : String) (body : Command) : Read Command := do
    expect g .none keyword
    let redirects ← readRedirects g fuel []
    return redirected line body redirects
  match t with
  | .keyword "if" =>
    let test ← g.list .body
    expect g .none "then"
    let yes ← g.list .body
    let no ← readElse g fuel
    close "fi" (.choose test yes no)
  | .keyword "while" =>
    let test ← g.list .body
    expect g .none "do"
    close "done" (.loop false test (← g.list .body))
  | .keyword "until" =>
    let test ← g.list .body
    expect g .none "do"
    close "done" (.loop true test (← g.list .body))
  | .keyword "for" =>
    let name := match ← token g .none with
      | .word w => (plainText w).getD ""
      | _ => ""
    if !isName name then throw "Bad for loop variable"
    let t ← token g .later
    let words ←
      if t.isKeyword "in" then readWords g fuel []
      else
        if !t.isOperator ";" then Read.push
        pure [allArguments]
    expect g .later "do"
    close "done" (.each line name words (← g.list .body))
  | .keyword "case" =>
    match ← token g .none with
    | .word subject =>
      expect g .later "in"
      let arms ← readArms g fuel []
      let redirects ← readRedirects g fuel []
      return redirected line (.select line subject arms) redirects
    | _ => Read.unexpected "word"
  | .operator "(" =>
    let body ← g.list .body
    expectOperator g ")"
    return .subshell line body (← readRedirects g fuel [])
  | .keyword "\x7b" => close "\x7d" (← g.list .body)
  | .word _ | .redirect .. =>
    Read.push
    readSimple g line fuel [] [] []
  | _ => Read.unexpected ""

/-- Commands joined by bars. -/
def readPipe (g : Grammar) : Nat → List Command → Read Command
  | 0, done => return .pipe done.reverse false
  | n + 1, done => do
    let t ← token g .none
    if t.isOperator "|" then
      let _ ← token g .later
      Read.push
      readPipe g n ((← readCommand g) :: done)
    else
      Read.push
      match done with
      | [c] => return c
      | _ => return .pipe done.reverse false

def readPipeline (g : Grammar) : Read Command := do
  let t ← token g .command
  let negated := t.isKeyword "!"
  if negated then
    let _ ← token g .command
  Read.push
  let first ← readCommand g
  let body ← readPipe g ((← get).rest.length + 2) [first]
  return if negated then .negation body else body

/-- Pipelines, each but the first depending on those before it. -/
def readChain (g : Grammar) : Nat → Command → Read Command
  | 0, first => return first
  | n + 1, first => do
    let t ← token g .none
    if t.isOperator "&&" || t.isOperator "||" then
      let _ ← token g .later
      Read.push
      let second ← readPipeline g
      readChain g n (if t.isOperator "&&" then .both first second else .either first second)
    else
      Read.push
      return first

/-- A command that nobody waits for. -/
def Command.unattended : Command → Command
  | .pipe stages _ => .pipe stages true
  | .redirected _ body redirects => .background body redirects
  | c => .background c []

def Command.after (c : Command) : Command → Command
  | .nothing => c
  | before => .sequence before c

/-- The rest of a list of commands. -/
def readList (g : Grammar) (nesting : Nesting) : Nat → Bool → Command → Read Command
  | 0, _, done => return done
  | n + 1, begun, done => do
    let top := nesting = .line
    let t ← token g (if top then .command else .later)
    match t with
    | .lineEnd =>
      readDocuments g
      return done
    | .ending =>
      readDocuments g
      modify fun s => { s with pushed := true, last := .ending }
      return done
    | _ =>
      Read.push
      if !top && (begun || nesting = .perhaps) && t.endsList then return done
      let first ← readPipeline g
      let c ← readChain g ((← get).rest.length + 2) first
      let t ← token g .none
      let c := if t.isOperator "&" then c.unattended else c
      let done := c.after done
      match t with
      | .ending =>
        readDocuments g
        modify fun s => { s with pushed := true, last := .ending }
        return done
      | .lineEnd =>
        Read.push
        readList g nesting n true done
      | _ =>
        if t.isOperator "&" || t.isOperator ";" then readList g nesting n true done
        else if top then Read.unexpected ""
        else
          Read.push
          return done

/-- The grammar of scripts whose commands are nested up to a depth. -/
def grammar : Nat → Grammar
  | 0 => ⟨fun _ => throw "Too deeply nested", throw "Too deeply nested"⟩
  | n + 1 =>
    { list := fun nesting => do
        readList (grammar n) nesting ((← get).rest.length + 2) false .nothing
      command := readCommand (grammar n) }

/-- How deep commands may be nested. -/
def nestingLimit : Nat := 2000

/-- What is read of a script at a time: the commands of a line, if there is one more. -/
def readLine : Read (Option Command) := do
  modify fun s => { s with pushed := false, pending := [] }
  let g := grammar nestingLimit
  let body ← g.list .line
  let s ← get
  match body, s.last with
  | .nothing, .ending => return none
  | _, _ => return some body

end PlcModule.Host.Shell
