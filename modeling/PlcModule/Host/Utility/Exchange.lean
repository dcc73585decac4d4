import PlcModule.Host.Devices
import PlcModule.Host.Utility.Printing
import PlcModule.Host.Regex

/-! The program that exchanges characters of a text for others, takes them out, or keeps one of
each run of them. -/
namespace PlcModule.Host.Exchange

/-- What a set is written as. -/
inductive Item where
  | char (c : Char)
  | range (a b : Char)
  | named (name : String)
  /-- One character so many times, or as often as it takes. -/
  | fill (c : Char) (count : Option Nat)

/-- A character, which may be written as an escape, and what follows it. -/
def readChar (cs : List Char) : Option (Char × List Char) :=
  match cs with
  | [] => none
  | '\\' :: c :: rest =>
    if (Printing.octal? c).isSome then
      let (n, _, rest) := Printing.digitsUpTo 8 3 0 0 (c :: rest)
      some (Printing.byte n, rest)
    else if c = 'e' then some ('e', rest)
    else some ((Printing.letter? c).getD c, rest)
  | c :: rest => some (c, rest)

/-- An item between brackets. -/
def bracketed? (cs : List Char) : Option (Item × List Char) :=
  match cs with
  | '[' :: ':' :: rest =>
    let name := rest.takeWhile (· ≠ ':')
    match rest.drop name.length with
    | ':' :: ']' :: rest => some (.named (String.ofList name), rest)
    | _ => none
  | '[' :: '=' :: c :: '=' :: ']' :: rest => some (.char c, rest)
  | '[' :: rest =>
    match readChar rest with
    | some (c, '*' :: rest) =>
      let digits := rest.takeWhile Char.isDigit
      match rest.drop digits.length with
      | ']' :: rest =>
        let base := if digits.head? = some '0' then 8 else 10
        let n := (Numeral.digits base 0 0 digits).1
        some (.fill c (if n = 0 then none else some n), rest)
      | _ => none
    | _ => none
  | _ => none

def items : Nat → List Char → Except String (List Item)
  | 0, _ => .ok []
  | n + 1, cs =>
    match bracketed? cs with
    | some (.named name, rest) => do
      if (CharSet.ofName? name).isNone then
        .error ("invalid character class " ++ Quoted.word name)
      else .ok (.named name :: (← items n rest))
    | some (item, rest) => do .ok (item :: (← items n rest))
    | none =>
      match readChar cs with
      | none => .ok []
      | some (a, '-' :: rest) =>
        match readChar rest with
        | none => .ok [.char a, .char '-']
        | some (b, rest) => do
          if b < a then
            .error ("range-endpoints of '" ++ String.ofList [a, '-', b] ++
              "' are in reverse collating sequence order")
          else .ok (.range a b :: (← items n rest))
      | some (a, rest) => do .ok (.char a :: (← items n rest))

def range (a b : Char) : List Char :=
  (List.range (b.toNat + 1 - a.toNat)).map fun i => Char.ofNat (a.toNat + i)

/-- The characters of an item, where so many are missing. -/
def Item.chars (missing : Nat) : Item → List Char
  | .char c => [c]
  | .range a b => Exchange.range a b
  | .named name => ((CharSet.ofName? name).getD []).flatMap fun r => Exchange.range r.1 r.2
  | .fill c count => List.replicate (count.getD missing) c

def chars (length : Nat) (set : List Item) : List Char :=
  let fixed := (set.flatMap (Item.chars 0)).length
  set.flatMap (Item.chars (length - fixed))

def allBytes : List Char :=
  (List.range 256).map Char.ofNat

def squeeze (set : List Char) (previous : Option Char) (done : List Char) : List Char → List Char
  | [] => done.reverse
  | c :: rest =>
    if previous = some c && set.contains c then squeeze set previous done rest
    else squeeze set (some c) (c :: done) rest

/-- What stands for each byte. -/
def table (first second : List Char) : Array Char :=
  (first.zip second).foldl (fun t x => t.setIfInBounds x.1.toNat x.2) allBytes.toArray

def tr : Program := fun args => do
  let g ← Task.options { letters := "cCdst", strict := true, words := [("complement", 'c'),
    ("delete", 'd'), ("squeeze-repeats", 's'), ("truncate-set1", 't')] } args
  let removes := g.has 'd'
  let squeezes := g.has 's'
  let least := if removes == squeezes then 2 else 1
  let most := if removes && !squeezes then 1 else 2
  match g.operands with
  | [] => Task.misuse 1 "missing operand"
  | first :: others =>
    if others.length + 1 < least then
      Task.complain ("missing operand after " ++ Quoted.word first)
      Task.complainPlain (if squeezes
        then "Two strings must be given when both deleting and squeezing repeats."
        else "Two strings must be given when translating.")
      Task.hint 1 ""
    if most < others.length + 1 then
      Task.complain ("extra operand " ++ Quoted.word (others.getD (most - 1) ""))
      if most = 1 then
        Task.complainPlain "Only one string may be given when deleting without squeezing repeats."
      Task.hint 1 ""
    let read (s : String) : Task (List Item) := do
      match items (s.length + 1) s.toList with
      | .ok set => return set
      | .error message => Task.fail 1 message
    let set ← read first
    let other ← match others with
      | s :: _ => read s
      | [] => pure []
    let chosen := chars 0 set
    let chosen := if g.has 'c' || g.has 'C' then allBytes.filter fun c => !chosen.contains c
      else chosen
    let goals := chars chosen.length other
    let translates := !removes && !others.isEmpty
    if translates && goals.isEmpty && !g.has 't' then
      Task.fail 1 "when not truncating set1, string2 must be non-empty"
    match ← Task.readDescriptor 0 Machine.endless with
    | .error e =>
      Task.fail 1 ("read error: " ++ reason e)
    | .ok text =>
      let cs := text.toList
      let member := allBytes.map chosen.contains |>.toArray
      let cs := if removes then cs.filter fun c => !(member.getD c.toNat false) else cs
      let cs := if translates then
          let padded := if g.has 't' then goals
            else goals ++ List.replicate (chosen.length - goals.length) (goals.getLastD ' ')
          let t := table chosen padded
          cs.map fun c => t.getD c.toNat c
        else cs
      let cs := if squeezes then squeeze (if others.isEmpty then chosen else goals) none [] cs else cs
      Task.say (String.ofList cs)
      return 0

end PlcModule.Host.Exchange
