import PlcModule.Host.Shell.Syntax

/-! The text of a script while it is read: what is left of it, the number of the line, the token
read last, and the lines that redirections wait for. -/
namespace PlcModule.Host.Shell

inductive Token where
  | ending
  | lineEnd
  | operator (text : String)
  | keyword (text : String)
  /-- A redirection sign, with the digit that stands in front of it. -/
  | redirect (descriptor : Option Nat) (sign : String)
  | word (parts : Word)

/-- A token by the name that messages give it. -/
def Token.name : Token → String
  | ending => "end of file"
  | lineEnd => "newline"
  | operator s => "\"" ++ s ++ "\""
  | keyword s => "\"" ++ s ++ "\""
  | redirect .. => "redirection"
  | word _ => "word"

/-- A redirection that waits for its lines. -/
structure Pending where
  number : Nat
  mark : List Char
  dropsTabs : Bool
  /-- The lines stand for themselves. -/
  literal : Bool

structure Source where
  rest : List Char
  line : Nat
  last : Token
  /-- The token read last is to be read once more. -/
  pushed : Bool
  pending : List Pending
  documents : List (Nat × Document)
  nextDocument : Nat
  aliases : List (String × String)
  /-- The aliases whose values are being read, with how much is left after them. -/
  inUse : List (String × Nat)

/-- Reads from a script, or tells what is wrong with it. -/
abbrev Read := ExceptT String (StateM Source)

namespace Read

/-- The text without line ends that a backslash takes away, and their number. -/
def joinLines : List Char → Nat → List Char × Nat
  | '\\' :: '\n' :: rest, n => joinLines rest (n + 1)
  | cs, n => (cs, n)

/-- The next character as it stands, which is left where it is. -/
def peekRaw : Read (Option Char) := do
  return (← get).rest.head?

/-- The next character after line ends that are taken away. -/
def peek : Read (Option Char) := do
  let s ← get
  let (rest, n) := joinLines s.rest 0
  if n ≠ 0 then set { s with rest, line := s.line + n }
  return rest.head?

/-- Passes over a character. -/
def skip : Read Unit :=
  modify fun s =>
    match s.rest with
    | '\n' :: rest => { s with rest, line := s.line + 1 }
    | _ :: rest => { s with rest }
    | [] => s

/-- Passes over a character if it is the next one. -/
def skipIf (c : Char) : Read Bool := do
  if (← peek) = some c then
    skip
    return true
  return false

/-- Takes characters of a class. -/
def takeWhile (p : Char → Bool) : Nat → List Char → Read (List Char)
  | 0, done => return done.reverse
  | n + 1, done => do
    match ← peek with
    | some c => if p c then skip; takeWhile p n (c :: done) else return done.reverse
    | none => return done.reverse

/-- The characters of a class at the front. -/
def run (p : Char → Bool) : Read String := do
  return String.ofList (← takeWhile p (← get).rest.length [])

/-- Puts a text in front of what is left. -/
def putBack (text : List Char) : Read Unit :=
  modify fun s => { s with rest := text ++ s.rest }

/-- Has the last token read once more. -/
def push : Read Unit :=
  modify fun s => { s with pushed := true }

/-- Refuses the last token, in favour of another one if it is known which. -/
def unexpected {α : Type} (wanted : String) : Read α := do
  let name := (← get).last.name
  throw (name ++ " unexpected" ++ if wanted = "" then "" else " (expecting " ++ wanted ++ ")")

end Read
end PlcModule.Host.Shell
