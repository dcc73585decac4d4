import PlcModule.Host.Numeral
import PlcModule.Host.Shell.Words

/-! Calculations in shell scripts, over whole numbers of sixty-four bits. A formula is cut into
tokens, read as a tree, and worked out with the variables that it names. Where it makes no sense,
that becomes a part of the tree, so it is found out only after what stands before it has been
worked out. -/
namespace PlcModule.Host.Shell

inductive Binary where
  | times | over | rest | plus | minus | left | right | less | atMost | more | atLeast
  | equal | differ | and | xor | or
  deriving DecidableEq, Repr

inductive Unary where
  | negative | not | flip
  deriving DecidableEq, Repr

inductive Formula where
  | number (n : Int)
  | variable (name : String)
  | unary (op : Unary) (a : Formula)
  | binary (op : Binary) (a b : Formula)
  /-- Sets a variable, to a value or to what an operator makes of it and the value. -/
  | assign (name : String) (op : Option Binary) (a : Formula)
  | both (a b : Formula)
  | either (a b : Formula)
  | choose (test yes no : Formula)
  /-- Goes on in a way that makes no sense. -/
  | cut (a : Formula) (why : String)
  | wrong (why : String)
  deriving Repr

namespace Formula

inductive Token where
  | number (n : Int)
  | name (s : String)
  | sign (s : String)
  | other
  deriving DecidableEq, Repr

/-- The signs, each before those that it begins with. -/
def signs : List String :=
  ["<<=", ">>=", "*=", "/=", "%=", "+=", "-=", "&=", "^=", "|=", "<<", ">>", "<=", ">=", "==", "!=",
    "&&", "||", "(", ")", "*", "/", "%", "+", "-", "<", ">", "=", "&", "^", "|", "!", "~", "?", ":"]

/-- Cuts a formula into tokens. -/
def tokens : Nat → List Char → List Token
  | 0, _ => []
  | _, [] => []
  | n + 1, c :: rest =>
    if c = ' ' || c = '\t' || c = '\n' then tokens n rest
    else if c.isDigit then
      match Numeral.prefixed? (c :: rest) with
      | some (k, rest) => .number (Numeral.clamp k) :: tokens n rest
      | none => [.other]
    else if isNameStart c then
      .name (String.ofList ((c :: rest).takeWhile isNameChar)) ::
        tokens n ((c :: rest).dropWhile isNameChar)
    else match signs.find? fun s => s.toList.isPrefixOf (c :: rest) with
      | some s => .sign s :: tokens n ((c :: rest).drop s.length)
      | none => .other :: tokens n rest

/-- The operators of each rank, the tightest first. -/
def ranks : List (List (String × Binary)) := [
  [("*", .times), ("/", .over), ("%", .rest)],
  [("+", .plus), ("-", .minus)],
  [("<<", .left), (">>", .right)],
  [("<", .less), ("<=", .atMost), (">", .more), (">=", .atLeast)],
  [("==", .equal), ("!=", .differ)],
  [("&", .and)],
  [("^", .xor)],
  [("|", .or)]]

def assignment? (s : String) : Option (Option Binary) :=
  if s = "=" then some none
  else
    match s.toList.reverse with
    | '=' :: front =>
      let op := String.ofList front.reverse
      (ranks.flatten.lookup op).bind fun b =>
        if [Binary.less, .more, .equal].contains b then none else some (some b)
    | _ => none

/-- What is to be read: a part of a formula, the loosest first. -/
inductive Level where
  | assignment
  | condition
  | either
  | both
  /-- A chain of operators of a rank. -/
  | chain (rank : Nat)
  | more (rank : Nat) (first : Formula)
  | operand

/-- Reads a part of a formula. Answers it and what follows it. Nothing follows what is wrong. -/
def read : Nat → Level → List Token → Formula × List Token
  | 0, _, _ => (.wrong "expecting primary", [])
  | n + 1, level, ts =>
    match level with
    | .assignment =>
      match ts with
      | .name x :: .sign s :: rest =>
        match assignment? s with
        | some op =>
          let (a, rest) := read n .assignment rest
          (.assign x op a, rest)
        | none => read n .condition ts
      | _ => read n .condition ts
    | .condition =>
      let (test, rest) := read n .either ts
      match rest with
      | .sign "?" :: rest =>
        let (yes, rest) := read n .assignment rest
        match rest with
        | .sign ":" :: rest =>
          let (no, rest) := read n .condition rest
          (.choose test yes no, rest)
        | _ => (.choose test yes (.wrong "expecting ':'"), [])
      | _ => (test, rest)
    | .either =>
      let (a, rest) := read n .both ts
      match rest with
      | .sign "||" :: rest =>
        let (b, rest) := read n .either rest
        (.either a b, rest)
      | _ => (a, rest)
    | .both =>
      let (a, rest) := read n (.chain ranks.length) ts
      match rest with
      | .sign "&&" :: rest =>
        let (b, rest) := read n .both rest
        (.both a b, rest)
      | _ => (a, rest)
    | .chain 0 => read n .operand ts
    | .chain (k + 1) =>
      let (a, rest) := read n (.chain k) ts
      read n (.more k a) rest
    | .more k a =>
      match ts with
      | .sign s :: rest =>
        match (ranks.getD k []).lookup s with
        | some op =>
          let (b, rest) := read n (.chain k) rest
          read n (.more k (.binary op a b)) rest
        | none => (a, ts)
      | _ => (a, ts)
    | .operand =>
      let unary (op : Unary) (rest : List Token) : Formula × List Token :=
        let (a, rest) := read n .operand rest
        (.unary op a, rest)
      match ts with
      | .number k :: rest => (.number k, rest)
      | .name x :: rest => (.variable x, rest)
      | .sign "(" :: rest =>
        let (a, rest) := read n .assignment rest
        match rest with
        | .sign ")" :: rest => (a, rest)
        | _ => (.cut a "expecting ')'", [])
      | .sign "+" :: rest => read n .operand rest
      | .sign "-" :: rest => unary .negative rest
      | .sign "!" :: rest => unary .not rest
      | .sign "~" :: rest => unary .flip rest
      | _ => (.wrong "expecting primary", [])

/-- The formula that a text is. -/
def parse (s : String) : Formula :=
  let ts := tokens (s.length + 1) s.toList
  let (f, rest) := read (16 * ts.length + 32) .assignment ts
  if rest.isEmpty then f else .cut f "expecting EOF"

/-- What is wrong with a formula first. -/
def trouble? : Formula → Option String
  | .number _ | .variable _ => none
  | .unary _ a | .assign _ _ a => a.trouble?
  | .binary _ a b | .both a b | .either a b => a.trouble? <|> b.trouble?
  | .choose test yes no => test.trouble? <|> yes.trouble? <|> no.trouble?
  | .cut a why => a.trouble? <|> some why
  | .wrong why => some why

def truth (b : Bool) : Int := if b then 1 else 0

/-- The bits of a number, as a number from zero on. -/
def bits (n : Int) : Nat :=
  (n % Numeral.range).toNat

/-- What an operator comes to, unless it divides by zero. -/
def apply (op : Binary) (a b : Int) : Option Int :=
  match op with
  | .times => some (Numeral.wrap (a * b))
  | .over => if b = 0 then none else some (Numeral.wrap (a.tdiv b))
  | .rest => if b = 0 then none else some (a.tmod b)
  | .plus => some (Numeral.wrap (a + b))
  | .minus => some (Numeral.wrap (a - b))
  | .left => some (Numeral.wrap (a * (1 <<< (bits b % 64) : Nat)))
  | .right => some (a / (1 <<< (bits b % 64) : Nat))
  | .less => some (truth (a < b))
  | .atMost => some (truth (a ≤ b))
  | .more => some (truth (b < a))
  | .atLeast => some (truth (b ≤ a))
  | .equal => some (truth (a = b))
  | .differ => some (truth (a ≠ b))
  | .and => some (Numeral.wrap (bits a &&& bits b))
  | .xor => some (Numeral.wrap (bits a ^^^ bits b))
  | .or => some (Numeral.wrap (bits a ||| bits b))

def divided : String := "division by zero"

/-- Passes over a part of a formula, which has to make sense all the same. -/
def pass {m : Type → Type} [Monad m] (refuse : String → m Int) (f : Formula) : m Int :=
  match f.trouble? with
  | some why => refuse why
  | none => pure 0

/-- Works a formula out. Reading and setting variables is left to a monad that may fail, and so
is what happens where the formula makes no sense. -/
def eval {m : Type → Type} [Monad m] (get : String → m Int) (put : String → Int → m Unit)
    (refuse : String → m Int) : Formula → m Int
  | .number n => pure n
  | .variable x => get x
  | .unary op a => do
    let n ← eval get put refuse a
    return match op with
      | .negative => Numeral.wrap (-n)
      | .not => truth (n = 0)
      | .flip => -n - 1
  | .binary op a b => do
    let n ← eval get put refuse a
    let k ← eval get put refuse b
    match apply op n k with
    | some r => pure r
    | none => refuse divided
  | .assign x op a => do
    let n ← eval get put refuse a
    match op with
    | none =>
      put x n
      return n
    | some op =>
      match apply op (← get x) n with
      | some r =>
        put x r
        return r
      | none => refuse divided
  | .both a b => do
    if (← eval get put refuse a) = 0 then
      let _ ← pass refuse b
      return 0
    return truth ((← eval get put refuse b) ≠ 0)
  | .either a b => do
    if (← eval get put refuse a) ≠ 0 then
      let _ ← pass refuse b
      return 1
    return truth ((← eval get put refuse b) ≠ 0)
  | .choose test yes no => do
    if (← eval get put refuse test) ≠ 0 then
      let n ← eval get put refuse yes
      let _ ← pass refuse no
      return n
    else
      let _ ← pass refuse yes
      eval get put refuse no
  | .cut a why => do
    let _ ← eval get put refuse a
    refuse why
  | .wrong why => refuse why

end Formula
end PlcModule.Host.Shell
