import PlcModule.Host.Numeral
import PlcModule.Host.Options
import PlcModule.Host.Regex

/-! The program that works out an expression whose signs are its arguments. -/
namespace PlcModule.Host.Expression

/-- Reads and works out an expression, or tells what is wrong, with the code to exit with. -/
abbrev Reader := ExceptT String (StateM (List String × String))

def peek : Reader (Option String) := do
  return (← get).1.head?

def take : Reader String := do
  match ← get with
  | (a :: rest, _) =>
    set (rest, a)
    return a
  | ([], last) => throw ("syntax error: missing argument after " ++ Quoted.word last)

def number? (s : String) : Option Int :=
  match s.toList with
  | '-' :: ds => (Numeral.count? (String.ofList ds)).map fun n => -(n : Int)
  | _ => (Numeral.count? s).map Int.ofNat

def number (s : String) : Reader Int :=
  match number? s with
  | some n => return n
  | none => throw "non-integer argument"

/-- Whether a value counts as false. -/
def isNull (s : String) : Bool :=
  let digits := match s.toList with
    | '-' :: ds => ds
    | ds => ds
  s = "" || (!digits.isEmpty && digits.all (· = '0'))

def truth (b : Bool) : String := if b then "1" else "0"

/-- The part of a text that an expression matches at its start, or how much that is. -/
def matchStart (s pattern : String) : Reader String := do
  match Regex.parse false pattern.toList with
  | .error message => throw message
  | .ok r =>
    let grouped := (pattern.splitOn "\\(").length ≠ 1
    let text := s.toList.toArray
    match Regex.atStart? r text with
    | none => return if grouped then "" else "0"
    | some f =>
      if grouped then
        match f.groups.lookup 1 with
        | some (a, b) => return String.ofList (text.extract a b).toList
        | none => return ""
      else return toString f.stop

def compare (op : String) (o : Ordering) : Bool :=
  match op with
  | "<" => o = .lt
  | "<=" => o ≠ .gt
  | "=" | "==" => o = .eq
  | "!=" => o ≠ .eq
  | ">=" => o ≠ .lt
  | _ => o = .gt

inductive Level where
  | either | both | compared | sum | product | matched | named | operand

/-- The operators of each level, with the level of their operands. -/
def Level.operators : Level → List String × Level
  | .either => (["|"], .both)
  | .both => (["&"], .compared)
  | .compared => (["<", "<=", "=", "==", "!=", ">=", ">"], .sum)
  | .sum => (["+", "-"], .product)
  | .product => (["*", "/", "%"], .matched)
  | .matched => ([":"], .named)
  | _ => ([], .operand)

def apply (op a b : String) : Reader String := do
  match op with
  | "|" => return if isNull a then (if isNull b then "0" else b) else a
  | "&" => return if isNull a || isNull b then "0" else a
  | ":" => matchStart a b
  | "+" => return toString ((← number a) + (← number b))
  | "-" => return toString ((← number a) - (← number b))
  | "*" => return toString ((← number a) * (← number b))
  | "/" =>
    let x ← number a
    let y ← number b
    if y = 0 then throw "division by zero"
    return toString (x.tdiv y)
  | "%" =>
    let x ← number a
    let y ← number b
    if y = 0 then throw "division by zero"
    return toString (x.tmod y)
  | _ =>
    match number? a, number? b with
    | some x, some y => return truth (compare op (Ord.compare x y))
    | _, _ => return truth (compare op (Ord.compare a b))

/-- Reads so much, or goes on with a chain of operators behind a value. -/
inductive Job where
  | read (l : Level)
  | chain (l : Level) (first : String)

def run : Nat → Job → Reader String
  | 0, _ => throw "syntax error"
  | n + 1, .chain l first => do
    match ← peek with
    | none => return first
    | some op =>
      if l.operators.1.contains op then
        let _ ← take
        let second ← run n (.read l.operators.2)
        run n (.chain l (← apply op first second))
      else return first
  | n + 1, .read .named => do
    let operand := run n (.read .operand)
    match ← peek with
    | some "match" =>
      let _ ← take
      let s ← operand
      matchStart s (← operand)
    | some "length" =>
      let _ ← take
      return toString (← operand).length
    | some "index" =>
      let _ ← take
      let s ← operand
      let set ← operand
      let before := s.toList.takeWhile fun c => !set.contains c
      return if before.length = s.length then "0" else toString (before.length + 1)
    | some "substr" =>
      let _ ← take
      let s ← operand
      let start ← operand
      let size ← operand
      match number? start, number? size with
      | some a, some k =>
        return if a ≤ 0 || k ≤ 0 then ""
          else String.ofList ((s.toList.drop (a.toNat - 1)).take k.toNat)
      | _, _ => return ""
    | _ => operand
  | n + 1, .read .operand => do
    match ← take with
    | "+" => take
    | "(" =>
      let a ← run n (.read .either)
      match ← peek with
      | some ")" =>
        let _ ← take
        return a
      | some other => throw ("syntax error: expecting ')' instead of " ++ Quoted.word other)
      | none => throw ("syntax error: expecting ')' after " ++ Quoted.word (← get).2)
    | ")" => throw "syntax error: unexpected ')'"
    | s => return s
  | n + 1, .read l => do
    let first ← run n (.read l.operators.2)
    run n (.chain l first)

def expr : Program := fun args => do
  let args := if args.head? = some "--" then args.tail else args
  if args.isEmpty then Task.misuse 2 "missing operand"
  let work : Reader String := do
    let a ← run (16 * args.length + 16) (.read .either)
    match ← peek with
    | some extra => throw ("syntax error: unexpected argument " ++ Quoted.word extra)
    | none => return a
  match ((ExceptT.run work).run (args, (← get).name)).1 with
  | .error message => Task.fail 2 message
  | .ok a =>
    Task.sayLine a
    return if isNull a then 1 else 0

end PlcModule.Host.Expression
