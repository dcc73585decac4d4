import PlcModule.Host.Numeral
import PlcModule.Host.Options

/-! Conditions on texts, numbers and files, as the words of a `test` state them. Read by a shell, a
condition is taken word by word; the program of that name goes by the number of words first. -/
namespace PlcModule.Host.Condition

/-- The words, and where reading has got to. -/
structure Reading where
  tree : FileTree
  words : Array String
  position : Nat

/-- Reads a condition, or tells what is wrong with it. -/
abbrev Reader := ExceptT String (StateM Reading)

def unaryOperators : List String :=
  ["-b", "-c", "-d", "-e", "-f", "-g", "-h", "-k", "-n", "-p", "-r", "-s", "-t", "-u", "-w", "-x",
    "-z", "-G", "-L", "-O", "-S"]

def pairOperators : List String :=
  ["=", "!=", "<", ">", "-eq", "-ne", "-ge", "-gt", "-le", "-lt", "-nt", "-ot", "-ef"]

def ofEntry (operator : String) : Entry → Bool
  | .directory => ["-d", "-e", "-r", "-s", "-w", "-x", "-G", "-O"].contains operator
  | .device => ["-c", "-e", "-r", "-w", "-G", "-O"].contains operator
  | .file content executable =>
    match operator with
    | "-x" => executable
    | "-s" => !content.isEmpty
    | _ => ["-e", "-f", "-r", "-w", "-G", "-O"].contains operator

def ofFile (tree : FileTree) (operator path : String) : Bool :=
  match tree.status (Octets.path path) with
  | .ok (_, e) => ofEntry operator e
  | .error _ => false

/-- When something was put in its place, the higher the earlier. -/
def age (tree : FileTree) (path : String) : Option Nat :=
  match tree.status (Octets.path path) with
  | .ok (l, _) => some (tree.entries.findIdx fun x => x.1 = l)
  | .error _ => none

def sameFile (tree : FileTree) (left right : String) : Bool :=
  match tree.status (Octets.path left), tree.status (Octets.path right) with
  | .ok (l, _), .ok (k, _) => l = k
  | _, _ => false

/-- Whether one number stands to another as an operator says. -/
def compare (operator : String) (x y : Int) : Bool :=
  match operator with
  | "-eq" => x = y
  | "-ne" => x ≠ y
  | "-lt" => x < y
  | "-le" => x ≤ y
  | "-gt" => y < x
  | _ => y ≤ x

def word? (i : Nat) : Reader (Option String) := do
  return (← get).words[i]?

/-- The word at the present position. -/
def here : Reader String := do
  return ((← get).words[(← get).position]?).getD ""

def move (n : Nat) : Reader Unit :=
  modify fun r => { r with position := r.position + n }

/-- Compares two words. A number is read as given. -/
def pair (number : String → Reader Int) (onlyOne : Bool) (left operator right : String) :
    Reader Bool := do
  let tree := (← get).tree
  match operator with
  | "=" | "==" => return left = right
  | "!=" => return left ≠ right
  | "<" => return left < right
  | ">" => return right < left
  | "-ef" => return sameFile tree left right
  | "-nt" | "-ot" =>
    let (newer, older) := if operator = "-nt" then (left, right) else (right, left)
    match age tree newer, age tree older with
    | some n, some o => return n < o
    | some _, none => return onlyOne
    | none, _ => return false
  | _ => return compare operator (← number left) (← number right)

namespace InShell

inductive Lexeme where
  | ending | operand | unary | pair | not | and | or | open_ | close
  deriving DecidableEq

def number (s : String) : Reader Int :=
  match Numeral.exactly? Numeral.decimal? s with
  | some n => return n
  | none => throw ("Illegal number: " ++ s)

/-- The kind of a word. An operator that nothing follows is an operand, and so is one in front of
an operator between two. -/
def lexeme (i : Nat) : Reader Lexeme := do
  match ← word? i with
  | none => return .ending
  | some s =>
    if unaryOperators.contains s then
      match ← word? (i + 1), ← word? (i + 2) with
      | none, _ => return .operand
      | some _, none => return .unary
      | some next, some _ => return if pairOperators.contains next then .operand else .unary
    else if pairOperators.contains s then return .pair
    else if s = "!" then return .not
    else if s = "-a" then return .and
    else if s = "-o" then return .or
    else if s = ")" then return .close
    else if s = "(" then return if (← word? (i + 1)).isNone then .operand else .open_
    else return .operand

/-- What is to be read, the loosest first. -/
inductive Level where
  | either
  | both
  | negated
  | primary

def read : Nat → Level → Lexeme → Reader Bool
  | 0, _, _ => return false
  | n + 1, .either, first => do
    let a ← read n .both first
    let p := (← get).position
    if (← lexeme (p + 1)) = .or then
      move 2
      let b ← read n .either (← lexeme (p + 2))
      return a || b
    else return a
  | n + 1, .both, first => do
    let a ← read n .negated first
    let p := (← get).position
    if (← lexeme (p + 1)) = .and then
      move 2
      let b ← read n .both (← lexeme (p + 2))
      return a && b
    else return a
  | n + 1, .negated, first => do
    if first = .not then
      let next ← lexeme ((← get).position + 1)
      if next ≠ .ending then move 1
      return !(← read n .negated next)
    else read n .primary first
  | n + 1, .primary, first => do
    match first with
    | .ending => return false
    | .open_ =>
      move 1
      let next ← lexeme (← get).position
      if next = .close then return false
      let a ← read n .either next
      move 1
      if (← lexeme (← get).position) ≠ .close then throw "closing paren expected"
      return a
    | .unary =>
      let operator ← here
      move 1
      match ← word? (← get).position with
      | none => throw (operator ++ ": argument expected")
      | some s =>
        match operator with
        | "-z" => return s = ""
        | "-n" => return s ≠ ""
        | "-t" =>
          let _ ← number s
          return false
        | _ => return ofFile (← get).tree operator s
    | _ =>
      let left ← here
      let p := (← get).position
      if (← lexeme (p + 1)) = .pair then
        move 2
        let operator := (← word? (p + 1)).getD ""
        match ← word? (p + 2) with
        | none => throw (operator ++ ": argument expected")
        | some right => pair number false left operator right
      else return left ≠ ""

/-- Reads a condition as a whole. Some forms of few words are known by themselves. -/
def whole : Nat → Bool → List String → Reader Bool
  | 0, _, _ => return false
  | n + 1, negated, words => do
    let size := words.length
    if size = 0 then return negated
    let plain := size = 3 && pairOperators.contains (words.getD 1 "")
    let few := (size = 3 || size = 4) && !plain
    if few && words.head? = some "!" then
      whole n (!negated) words.tail
    else
      let words :=
        if few && words.head? = some "(" && words.getLast? = some ")" then words.tail.dropLast
        else words
      modify fun r => { r with words := words.toArray, position := 0 }
      let first ← if plain then pure Lexeme.operand else lexeme 0
      let a ← read (4 * words.length + 8) .either first
      let p := (← get).position
      match ← word? p, ← word? (p + 1) with
      | some s, some _ => throw (if s = "" then "unexpected operator" else s ++ ": unexpected operator")
      | _, _ => return a != negated

/-- Whether a condition holds, or what is wrong with it. -/
def holds (tree : FileTree) (words : List String) : Except String Bool :=
  (ExceptT.run (whole (words.length + 1) false words) ⟨tree, words.toArray, 0⟩).1

end InShell

def isPair (s : String) : Bool :=
  s = "==" || pairOperators.contains s

/-- A number, as far as it is one. -/
def number (s : String) : Reader Int :=
  match Numeral.whole? Numeral.decimal? s with
  | some n => return n
  | none => throw ("invalid integer " ++ Quoted.word s)

/-- Refuses to go on past the last word. -/
def beyond {α : Type} : Reader α := do
  throw ("missing argument after " ++ Quoted.word ((← get).words.toList.getLastD ""))

def unary : Reader Bool := do
  let operator ← here
  if !(unaryOperators.contains operator || operator = "-N") then
    throw (Quoted.word operator ++ ": unary operator expected")
  move 1
  let r ← get
  if r.words.size ≤ r.position then beyond
  let s ← here
  move 1
  match operator with
  | "-z" => return s = ""
  | "-n" => return s ≠ ""
  | "-t" =>
    let _ ← number s
    return false
  | _ => return ofFile r.tree operator s

def binary : Reader Bool := do
  let p := (← get).position
  let left ← here
  let operator := (← word? (p + 1)).getD ""
  match ← word? (p + 2) with
  | none => beyond
  | some right =>
    move 3
    pair number true left operator right

def one : Reader Bool := do
  let s ← here
  move 1
  return s ≠ ""

def isDashed (s : String) : Bool :=
  s.length = 2 && s.startsWith "-"

def two : Reader Bool := do
  let s ← here
  if s = "!" then
    move 1
    return !(← one)
  else if isDashed s then unary
  else beyond

/-- Passes over a word after which another one has to come. -/
def advance : Reader Unit := do
  move 1
  let r ← get
  if r.words.size ≤ r.position then beyond

/-- Reads so many words, or all of them. -/
inductive Level where
  | count (words : Nat)
  | either
  | both
  | term (negated : Bool)

def three (rest : Reader Bool) : Reader Bool := do
  let p := (← get).position
  let middle := (← word? (p + 1)).getD ""
  let s ← here
  if isPair middle then binary
  else if s = "!" then
    advance
    return !(← two)
  else if s = "(" && (← word? (p + 2)) = some ")" then
    move 1
    let a ← one
    move 1
    return a
  else if middle = "-a" || middle = "-o" then rest
  else throw (Quoted.word middle ++ ": binary operator expected")

def read : Nat → Level → Reader Bool
  | 0, _ => return false
  | n + 1, .count words => do
    match words with
    | 1 => one
    | 2 => two
    | 3 => three (read n .either)
    | 4 =>
      let p := (← get).position
      let s ← here
      if s = "!" then
        advance
        return !(← three (read n .either))
      else if s = "(" && (← word? (p + 3)) = some ")" then
        move 1
        let a ← two
        move 1
        return a
      else read n .either
    | _ => read n .either
  | n + 1, .either => do
    let a ← read n .both
    let r ← get
    if r.words[r.position]? = some "-o" then
      move 1
      let b ← read n .either
      return a || b
    else return a
  | n + 1, .both => do
    let a ← read n (.term false)
    let r ← get
    if r.words[r.position]? = some "-a" then
      move 1
      let b ← read n .both
      return a && b
    else return a
  | n + 1, .term negated => do
    let r ← get
    if r.words.size ≤ r.position then beyond
    let s ← here
    let left := r.words.size - r.position
    if s = "!" then
      advance
      read n (.term !negated)
    else
      let a ←
        if s = "(" then do
          advance
          let p := (← get).position
          let inner := ((r.words.toList.drop p).takeWhile (· ≠ ")")).length
          let inner := if 4 < inner then r.words.size - p else max inner 1
          let a ← read n (.count inner)
          match ← word? (← get).position with
          | none => throw "')' expected"
          | some ")" =>
            move 1
            pure a
          | some other => throw ("')' expected, found " ++ Quoted.word other)
        else if 3 ≤ left && isPair (r.words.getD (r.position + 1) "") then binary
        else if isDashed s then unary
        else one
      return a != negated

/-- Whether a condition holds, or what is wrong with it. -/
def holds (tree : FileTree) (words : List String) : Except String Bool :=
  if words.isEmpty then .ok false
  else (ExceptT.run (do
    let a ← read (8 * words.length + 8) (.count words.length)
    let r ← get
    match r.words[r.position]? with
    | some s => throw ("extra argument " ++ Quoted.word s)
    | none => return a : Reader Bool) ⟨tree, words.toArray, 0⟩).1

def weigh (words : List String) : Task Nat := do
  match ← Task.ask fun t => holds t words with
  | .ok true => return 0
  | .ok false => return 1
  | .error message => Task.fail 2 message

def test : Program := weigh

/-- The same under the name of a bracket, which the last argument closes. -/
def bracket : Program := fun args => do
  if args.getLast? = some "]" then weigh args.dropLast
  else Task.fail 2 "missing ']'"

end PlcModule.Host.Condition
