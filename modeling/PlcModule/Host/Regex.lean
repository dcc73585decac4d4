import PlcModule.Host.Numeral

/-! Regular expressions, in the basic and in the extended way of writing them. An expression leads
from one place in a text to others; of the matches that begin first, the longest counts. -/
namespace PlcModule.Host

/-- A set of characters, by ranges. -/
structure CharSet where
  negated : Bool
  ranges : List (Char × Char)
  deriving Repr

inductive Regex where
  | empty
  | char (c : Char)
  | any
  | set (s : CharSet)
  | seq (a b : Regex)
  | alt (a b : Regex)
  | repeated (r : Regex) (low : Nat) (high : Option Nat)
  | group (n : Nat) (r : Regex)
  | back (n : Nat)
  | lineStart
  | lineEnd
  | wordStart
  | wordEnd
  | wordEdge
  | noWordEdge
  deriving Repr

namespace CharSet

def has (s : CharSet) (c : Char) : Bool :=
  s.ranges.any fun r => r.1 ≤ c && c ≤ r.2

def accepts (foldCase : Bool) (s : CharSet) (c : Char) : Bool :=
  (s.has c || (foldCase && (s.has c.toLower || s.has c.toUpper))) != s.negated

/-- The classes of characters that have a name. -/
def ofName? : String → Option (List (Char × Char))
  | "alpha" => some [('A', 'Z'), ('a', 'z')]
  | "digit" => some [('0', '9')]
  | "alnum" => some [('0', '9'), ('A', 'Z'), ('a', 'z')]
  | "upper" => some [('A', 'Z')]
  | "lower" => some [('a', 'z')]
  | "space" => some [('\t', '\x0d'), (' ', ' ')]
  | "blank" => some [('\t', '\t'), (' ', ' ')]
  | "punct" => some [('!', '/'), (':', '@'), ('[', '\x60'), ('\x7b', '~')]
  | "print" => some [(' ', '~')]
  | "graph" => some [('!', '~')]
  | "cntrl" => some [('\x00', '\x1f'), ('\x7f', '\x7f')]
  | "xdigit" => some [('0', '9'), ('A', 'F'), ('a', 'f')]
  | _ => none

def word : List (Char × Char) :=
  [('0', '9'), ('A', 'Z'), ('_', '_'), ('a', 'z')]

def blank : List (Char × Char) :=
  [('\t', '\x0d'), (' ', ' ')]

end CharSet

namespace Regex

/-! ### Reading -/

/-- The item at the front between brackets: a range, a class or a character. -/
def setItem : List Char → Except String (List (Char × Char) × List Char)
  | [] => .error "Unmatched [, [^, [:, [., or [="
  | '[' :: ':' :: rest =>
    let name := rest.takeWhile (· ≠ ':')
    match rest.drop name.length with
    | ':' :: ']' :: rest =>
      match CharSet.ofName? (String.ofList name) with
      | some ranges => .ok (ranges, rest)
      | none => .error "Invalid character class name"
    | _ => .error "Unmatched [, [^, [:, [., or [="
  | a :: '-' :: b :: rest =>
    if b = ']' then .ok ([(a, a)], '-' :: b :: rest)
    else if b < a then .error "Invalid range end"
    else .ok ([(a, b)], rest)
  | a :: rest => .ok ([(a, a)], rest)

/-- The items up to the closing bracket. One that comes first stands for itself. -/
def setItems : Nat → Bool → List (Char × Char) → List Char →
    Except String (List (Char × Char) × List Char)
  | 0, _, _, _ => .error "Unmatched [, [^, [:, [., or [="
  | n + 1, first, done, cs =>
    match first, cs with
    | false, ']' :: rest => .ok (done, rest)
    | _, _ => do
      let (ranges, rest) ← setItem cs
      setItems n false (done ++ ranges) rest

def readSet (cs : List Char) : Except String (Regex × List Char) := do
  let (negated, cs) := match cs with
    | '^' :: rest => (true, rest)
    | _ => (false, cs)
  let (ranges, rest) ← setItems (cs.length + 1) true [] cs
  .ok (.set ⟨negated, ranges⟩, rest)

/-- The bounds of a repetition, up to what closes them. -/
def readBounds (extended : Bool) (cs : List Char) :
    Except String ((Nat × Option Nat) × List Char) := do
  let invalid : Except String ((Nat × Option Nat) × List Char) :=
    .error "Invalid content of \\\x7b\\\x7d"
  let close (bounds : Nat × Option Nat) (rest : List Char) :
      Except String ((Nat × Option Nat) × List Char) :=
    match extended, rest with
    | true, '\x7d' :: rest | false, '\\' :: '\x7d' :: rest =>
      if bounds.2.any (· < bounds.1) then invalid else .ok (bounds, rest)
    | _, [] => .error (if extended then "Unmatched \x7b" else "Unmatched \\\x7b")
    | _, _ => invalid
  let (low, count, rest) := Numeral.digits 10 0 0 cs
  match rest with
  | ',' :: rest =>
    match Numeral.digits 10 0 0 rest with
    | (_, 0, rest) => close (low, none) rest
    | (high, _, rest) => close (low, some high) rest
  | _ => if count = 0 then invalid else close (low, some low) rest

/-- A mark that stands for more than itself. -/
inductive Mark where
  | open_ | close | bar | star | plus | maybe | bounds | char (c : Char) | other (r : Regex)
  | bracket

def escaped (extended : Bool) (c : Char) : Mark :=
  match c with
  | '(' => if extended then .char c else .open_
  | ')' => if extended then .char c else .close
  | '|' => if extended then .char c else .bar
  | '+' => if extended then .char c else .plus
  | '?' => if extended then .char c else .maybe
  | '\x7b' => if extended then .char c else .bounds
  | '<' => .other .wordStart
  | '>' => .other .wordEnd
  | 'b' => .other .wordEdge
  | 'B' => .other .noWordEdge
  | 'w' => .other (.set ⟨false, CharSet.word⟩)
  | 'W' => .other (.set ⟨true, CharSet.word⟩)
  | 's' => .other (.set ⟨false, CharSet.blank⟩)
  | 'S' => .other (.set ⟨true, CharSet.blank⟩)
  | 'n' => .char '\n'
  | 't' => .char '\t'
  | '\x60' => .other .lineStart
  | '\'' => .other .lineEnd
  | _ => if '1' ≤ c && c ≤ '9' then .other (.back (c.toNat - 0x30)) else .char c

/-- Whether a dollar sign stands where a line can end. -/
def endsHere (extended : Bool) (rest : List Char) : Bool :=
  extended || match rest with
    | [] => true
    | '\\' :: ')' :: _ | '\\' :: '|' :: _ => true
    | _ => false

/-- The mark at the front, and what follows it. -/
def mark (extended atStart : Bool) : List Char → Except String (Mark × List Char)
  | [] => .error "Premature end of regular expression"
  | '\\' :: [] => .error "Trailing backslash"
  | '\\' :: c :: rest => .ok (escaped extended c, rest)
  | '.' :: rest => .ok (.other .any, rest)
  | '[' :: rest => .ok (.bracket, rest)
  | '*' :: rest => .ok (.star, rest)
  | '^' :: rest => .ok (if extended || atStart then .other .lineStart else .char '^', rest)
  | '$' :: rest => .ok (if endsHere extended rest then .other .lineEnd else .char '$', rest)
  | c :: rest =>
    if extended then
      .ok (match c with
        | '(' => .open_
        | ')' => .close
        | '|' => .bar
        | '+' => .plus
        | '?' => .maybe
        | '\x7b' => .bounds
        | _ => .char c, rest)
    else .ok (.char c, rest)

/-- How far reading has got: alternatives that are complete, the one being read, its last item,
and the number of groups. -/
structure Draft where
  before : Option Regex
  sequence : Regex
  last : Option Regex
  groups : Nat
  depth : Nat

def Draft.start (groups depth : Nat) : Draft :=
  ⟨none, .empty, none, groups, depth⟩

def Draft.settled (d : Draft) : Regex :=
  match d.last with
  | some r => .seq d.sequence r
  | none => d.sequence

def Draft.push (d : Draft) (r : Regex) : Draft :=
  { d with sequence := d.settled, last := some r }

def Draft.finish (d : Draft) : Regex :=
  match d.before with
  | some a => .alt a d.settled
  | none => d.settled

/-- A sign that repeats what is in front of it. -/
def Draft.repeat? (extended : Bool) (d : Draft) (low : Nat) (high : Option Nat) (sign : Char) :
    Draft :=
  match d.last with
  | some .lineStart => if extended then d else d.push (.char sign)
  | some r => { d with last := some (.repeated r low high) }
  | none => if extended then d else d.push (.char sign)

/-- Reads an expression, up to its end or to the bracket that closes a group. -/
def readAll (extended : Bool) : Nat → Draft → List Char → Except String (Regex × Nat × List Char)
  | 0, d, cs => .ok (d.finish, d.groups, cs)
  | n + 1, d, cs => do
    if cs.isEmpty then
      if 0 < d.depth then .error "Unmatched ( or \\(" else .ok (d.finish, d.groups, [])
    else
      let (m, rest) ← mark extended (d.last.isNone) cs
      match m with
      | .char c => readAll extended n (d.push (.char c)) rest
      | .other (.back k) =>
        if d.groups < k then .error "Invalid back reference"
        else readAll extended n (d.push (.back k)) rest
      | .other r => readAll extended n (d.push r) rest
      | .bracket =>
        let (r, rest) ← readSet rest
        readAll extended n (d.push r) rest
      | .star => readAll extended n (d.repeat? extended 0 none '*') rest
      | .plus => readAll extended n (d.repeat? extended 1 none '+') rest
      | .maybe => readAll extended n (d.repeat? extended 0 (some 1) '?') rest
      | .bounds =>
        match d.last with
        | none =>
          if extended then readAll extended n (d.push (.char '\x7b')) rest
          else .error "Invalid preceding regular expression"
        | some _ =>
          let digits := rest.head?.any fun c => c.isDigit || c = ','
          if extended && !digits then readAll extended n (d.push (.char '\x7b')) rest
          else
            let ((low, high), rest) ← readBounds extended rest
            readAll extended n (d.repeat? extended low high '\x7b') rest
      | .bar =>
        readAll extended n { d with before := some d.finish, sequence := .empty, last := none } rest
      | .open_ =>
        let number := d.groups + 1
        let (r, groups, rest) ← readAll extended n (.start number (d.depth + 1)) rest
        readAll extended n { d.push (.group number r) with groups } rest
      | .close =>
        if 0 < d.depth then .ok (d.finish, d.groups, rest)
        else if extended then readAll extended n (d.push (.char ')')) rest
        else .error "Unmatched ) or \\)"

/-- The expression that a text is. -/
def parse (extended : Bool) (cs : List Char) : Except String Regex := do
  let (r, _, _) ← readAll extended (2 * cs.length + 2) (.start 0 0) cs
  .ok r

/-- The expression that matches a text and nothing else. -/
def literal (cs : List Char) : Regex :=
  cs.foldr (fun c r => .seq (.char c) r) .empty

/-! ### Matching -/

/-- A place in a text, with the stretches that groups have matched. -/
structure Spot where
  previous : Option Char
  left : List Char
  taken : Nat
  groups : List (Nat × Nat × Nat)

def isWord (c : Char) : Bool :=
  c.isAlphanum || c = '_'

def Spot.inWord (s : Spot) : Bool × Bool :=
  (s.previous.any isWord, s.left.head?.any isWord)

def Spot.next (s : Spot) : Spot :=
  match s.left with
  | c :: rest => { s with previous := some c, left := rest, taken := s.taken + 1 }
  | [] => s

/-- Each place once. -/
def distinct (spots : List Spot) : List Spot :=
  (spots.foldl (fun done s =>
    if done.any fun d => d.taken = s.taken then done else s :: done) []).reverse

/-- The places that repeated steps lead to, those with more steps first. -/
def repeatSteps (step : Spot → List Spot) : Nat → Nat → Option Nat → List Spot → List Spot →
    List Spot
  | 0, _, _, _, found => found
  | n + 1, low, high, reached, found =>
    let found := if low = 0 then
        (reached.filter fun s => !found.any fun f => f.taken = s.taken) ++ found
      else found
    if high = some 0 then found
    else
      let next := distinct (reached.flatMap step)
      let next := if low = 0 then next.filter fun s => !found.any fun f => f.taken = s.taken
        else next
      if next.isEmpty then found
      else repeatSteps step n (low - 1) (high.map (· - 1)) next found

def sameChar (foldCase : Bool) (a b : Char) : Bool :=
  a = b || (foldCase && a.toLower = b.toLower)

/-- The places that an expression leads to, the one that is liked best first. -/
def ends (text : Array Char) (foldCase : Bool) : Regex → Spot → List Spot
  | .empty, s => [s]
  | .char c, s => if s.left.head?.any (sameChar foldCase c) then [s.next] else []
  | .any, s => if s.left.isEmpty then [] else [s.next]
  | .set cs, s => if s.left.head?.any (cs.accepts foldCase) then [s.next] else []
  | .seq a b, s => distinct ((ends text foldCase a s).flatMap (ends text foldCase b))
  | .alt a b, s => distinct (ends text foldCase a s ++ ends text foldCase b s)
  | .repeated r low high, s =>
    repeatSteps (ends text foldCase r) (s.left.length + low + 2) low high [s] []
  | .group n r, s =>
    (ends text foldCase r s).map fun e =>
      { e with groups := (n, s.taken, e.taken) :: e.groups.filter fun g => g.1 ≠ n }
  | .back n, s =>
    match s.groups.lookup n with
    | some (from_, stop) =>
      let piece := (text.extract from_ stop).toList
      let fits := piece.length ≤ s.left.length &&
        (piece.zip s.left).all fun x => sameChar foldCase x.1 x.2
      if fits then [piece.foldl (fun e _ => e.next) s] else []
    | none => []
  | .lineStart, s => if s.previous.isNone then [s] else []
  | .lineEnd, s => if s.left.isEmpty then [s] else []
  | .wordStart, s => if s.inWord = (false, true) then [s] else []
  | .wordEnd, s => if s.inWord = (true, false) then [s] else []
  | .wordEdge, s => if s.inWord.1 != s.inWord.2 then [s] else []
  | .noWordEdge, s => if s.inWord.1 == s.inWord.2 then [s] else []

/-- Where a match begins and ends, with the stretches of its groups. -/
structure Found where
  start : Nat
  stop : Nat
  groups : List (Nat × Nat × Nat)

/-- The longest of several places. -/
def longest? (spots : List Spot) : Option Spot :=
  spots.foldl (fun best s =>
    match best with
    | some b => if b.taken < s.taken then some s else best
    | none => some s) none

/-- The match that begins first from a place on, of those that are wanted. -/
def searchFrom (text : Array Char) (foldCase : Bool) (wanted : Spot → Spot → Bool) (r : Regex) :
    Nat → Spot → Option Found
  | 0, _ => none
  | n + 1, s =>
    match longest? ((ends text foldCase r s).filter (wanted s)) with
    | some e => some ⟨s.taken, e.taken, e.groups⟩
    | none => if s.left.isEmpty then none else searchFrom text foldCase wanted r n s.next

def spotAt (text : Array Char) (offset : Nat) : Spot where
  previous := if offset = 0 then none else text[offset - 1]?
  left := (text.extract offset text.size).toList
  taken := offset
  groups := []

/-- The first match in a text from an offset on, of those that are wanted. -/
def searchWhere? (foldCase : Bool) (wanted : Spot → Spot → Bool) (r : Regex) (text : Array Char)
    (offset : Nat) : Option Found :=
  if text.size < offset then none
  else searchFrom text foldCase wanted r (text.size + 1 - offset) (spotAt text offset)

def search? (foldCase : Bool) (r : Regex) (text : Array Char) (offset : Nat) : Option Found :=
  searchWhere? foldCase (fun _ _ => true) r text offset

/-- The match at the start of a text. -/
def atStart? (r : Regex) (text : Array Char) : Option Found :=
  (longest? (ends text false r (spotAt text 0))).map fun e => ⟨0, e.taken, e.groups⟩

def matches_ (foldCase : Bool) (r : Regex) (s : String) : Bool :=
  (search? foldCase r s.toList.toArray 0).isSome

end Regex
end PlcModule.Host
