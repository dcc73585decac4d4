/-! Names as messages quote them: in single quotes, so that a shell would take them for what they
are. -/
namespace PlcModule.Host.Quoted

/-- Characters that a shell takes for more than themselves. -/
def isSpecial (c : Char) : Bool :=
  " !\"$&()*;<=>?[\\^|\x60'".contains c || c.toNat < 32 || 126 < c.toNat

def isSpecialAt (alone first : Bool) (c : Char) : Bool :=
  isSpecial c || (first && (c = '#' || c = '~')) || (alone && (c = '\x7b' || c = '\x7d'))

def isPrintable (c : Char) : Bool :=
  32 ≤ c.toNat && c.toNat ≤ 126

def octal (c : Char) : String :=
  let n := c.toNat
  "\\" ++ String.ofList [Nat.digitChar (n / 64 % 8), Nat.digitChar (n / 8 % 8), Nat.digitChar (n % 8)]

def escape (c : Char) : String :=
  match c.toNat with
  | 7 => "\\a"
  | 8 => "\\b"
  | 9 => "\\t"
  | 10 => "\\n"
  | 11 => "\\v"
  | 12 => "\\f"
  | 13 => "\\r"
  | _ => octal c

/-- The inside of single quotes. A character that cannot be shown is put into quotes of its own
kind. -/
def inside (escaping : Bool) : List Char → String
  | [] => ""
  | c :: rest =>
    if isPrintable c then
      let text := if c = '\'' then "'\\''" else String.singleton c
      (if escaping then "''" else "") ++ text ++ inside false rest
    else (if escaping then "" else "'$'") ++ escape c ++ inside true rest

/-- A name in quotes. -/
def always (s : String) : String :=
  let cs := s.toList
  let mild (c : Char) := c = '\'' || c = ' ' || !isSpecial c
  if cs.contains '\'' && cs.all mild then "\"" ++ s ++ "\""
  else if cs.all isPrintable then "'" ++ inside false cs ++ "'"
  else "'" ++ inside false cs ++ "'"

/-- A name as it is, unless it needs quotes. -/
def ifNeeded (s : String) : String :=
  match s.toList with
  | [] => "''"
  | c :: rest =>
    if isSpecialAt rest.isEmpty true c || rest.any (isSpecialAt false false) then always s else s

/-- A word in quotes, with a backslash in front of those in it. -/
def word (s : String) : String :=
  let spelled := s.toList.map fun c =>
    if c = '\'' then "\\'" else if c = '\\' then "\\\\"
    else if isPrintable c then String.singleton c else escape c
  "'" ++ String.join spelled ++ "'"

end PlcModule.Host.Quoted
