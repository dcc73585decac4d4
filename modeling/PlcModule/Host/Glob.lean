import PlcModule.Host.Regex
import PlcModule.Host.Utility.Names

/-! Patterns for the names of files: stars, question marks and sets in brackets. -/
namespace PlcModule.Host.Glob

/-- A character of a pattern, and whether it stands for itself only. -/
abbrev Mark := Char × Bool

/-- A class of characters at the front, between colons and a bracket. -/
def class? (p : List Mark) : Option (List (Char × Char) × List Mark) :=
  match p with
  | (':', false) :: rest =>
    let name := rest.takeWhile fun m => m ≠ (':', false)
    match rest.drop name.length with
    | (':', false) :: (']', false) :: rest =>
      (CharSet.ofName? (String.ofList (name.map Prod.fst))).map fun ranges => (ranges, rest)
    | _ => none
  | _ => none

/-- Whether a character is in a set, and what follows the set. A bracket that comes first stands
for itself. -/
def inSet (c : Char) : Nat → Bool → Bool → List Mark → Option (Bool × List Mark)
  | 0, _, _, _ => none
  | _, _, _, [] => none
  | n + 1, first, found, m :: rest =>
    if !first && m = (']', false) then some (found, rest)
    else
      match if m = ('[', false) then class? rest else none with
      | some (ranges, rest) =>
        inSet c n false (found || CharSet.has ⟨false, ranges⟩ c) rest
      | none =>
        match rest with
        | ('-', false) :: b :: rest' =>
          if b = (']', false) then inSet c n false (found || m.1 = c) rest
          else inSet c n false (found || (m.1 ≤ c && c ≤ b.1)) rest'
        | _ => inSet c n false (found || m.1 = c) rest

/-- A set after its opening bracket: whether it accepts a character, and what follows it. -/
def set? (c : Char) (p : List Mark) : Option (Bool × List Mark) :=
  match p with
  | ('!', false) :: rest =>
    (inSet c (p.length + 1) true false rest).map fun x => (!x.1, x.2)
  | _ => inSet c (p.length + 1) true false p

/-- Whether a pattern matches the whole of a text, in so many steps. -/
def fitsIn : Nat → List Mark → List Char → Bool
  | 0, _, _ => false
  | _, [], cs => cs.isEmpty
  | n + 1, m :: q, cs =>
    if m = ('*', false) then
      fitsIn n q cs || match cs with
        | [] => false
        | _ :: rest => fitsIn n (m :: q) rest
    else match cs with
      | [] => false
      | c :: rest =>
        if m = ('?', false) then fitsIn n q rest
        else if m = ('[', false) then
          match set? c q with
          | some (accepted, q) => accepted && fitsIn n q rest
          | none => c = '[' && fitsIn n q rest
        else m.1 = c && fitsIn n q rest

def fits (p : List Mark) (cs : List Char) : Bool :=
  fitsIn (p.length + cs.length + 1) p cs

/-- A pattern in which a backslash makes the next character stand for itself, and a caret may
stand for an exclamation mark. -/
def ofText : List Char → List Mark
  | '\\' :: c :: rest => (c, true) :: ofText rest
  | '[' :: '^' :: rest => ('[', false) :: ('!', false) :: ofText rest
  | c :: rest => (c, false) :: ofText rest
  | [] => []

def isPattern (p : List Mark) : Bool :=
  p.any fun m => !m.2 && "*?[".contains m.1

def textOf (p : List Mark) : String :=
  String.ofList (p.map Prod.fst)

/-- The pieces between slashes. -/
def piecesOf : List Mark → List (List Mark)
  | [] => [[]]
  | m :: rest =>
    if m.1 = '/' then [] :: piecesOf rest
    else match piecesOf rest with
      | [] => [[m]]
      | piece :: pieces => (m :: piece) :: pieces

/-- The names in a directory that a pattern matches. A leading dot has to be given. -/
def namesFitting (tree : FileTree) (dir : String) (p : List Mark) : List String :=
  match tree.status (Octets.path (if dir = "" then "." else dir)) with
  | .ok (l, .directory) =>
    let dotted := p.head?.any (·.1 = '.')
    let names := (tree.children l).map fun x => Octets.encode x.1
    (names ++ if dotted then [".", ".."] else []).filter fun name =>
      fits p name.toList && (dotted || !name.startsWith ".")
  | _ => []

/-- The paths that begin with one of those given and go on as the pieces say. -/
def pathsFitting (tree : FileTree) (begun : List String) : List (List Mark) → List String
  | [] => begun
  | piece :: rest =>
    let tail := if rest.isEmpty then "" else "/"
    let paths := begun.flatMap fun b =>
      if isPattern piece then (namesFitting tree b piece).map fun name => b ++ name ++ tail
      else if rest.isEmpty && !tree.pathExists (Octets.path (b ++ textOf piece)) then []
      else [b ++ textOf piece ++ tail]
    pathsFitting tree paths rest

/-- The files that a pattern matches, in order. -/
def files (tree : FileTree) (p : List Mark) : List String :=
  (pathsFitting tree [""] (piecesOf p)).mergeSort fun a b => a ≤ b

/-- The text without the part at one end that a pattern matches, as much or as little of it as
there is. Of a part with seams only what stands before the first seam is matched. From the front the
search for a part comes to an end there too. -/
def cutOff (seam : Char) (atEnd longest : Bool) (p : List Mark) (cs : List Char) : List Char :=
  let front (cs : List Char) : List Char := cs.takeWhile (· ≠ seam)
  let tries := if atEnd = longest then front cs else cs
  let fitting := (List.range (tries.length + 1)).filter fun n =>
    fits p (front (if atEnd then cs.drop n else cs.take n))
  match (if atEnd = longest then fitting.head? else fitting.getLast?) with
  | some n => if atEnd then cs.take n else cs.drop n
  | none => cs

end PlcModule.Host.Glob
