import PlcModule.Host.Process
import PlcModule.Host.Quoted

/-! Options of programs: single letters after a dash, several of which may be run together, and
words after two dashes. Options may stand after operands, unless two dashes alone come first. -/
namespace PlcModule.Host

/-- What a program understands. -/
structure OptionSet where
  /-- The letters without an argument, and those with one. -/
  letters : String
  arguments : String := ""
  /-- Words, each for a letter. -/
  words : List (String × Char) := []
  /-- The code to exit with when they are misused. -/
  misuse : Nat := 1
  /-- Options end at the first operand. -/
  strict : Bool := false
  /-- A line to say how they are used comes before the hint. -/
  usage : String := ""

/-- The options that were given, in order, each with its argument, and the operands. -/
structure Given where
  options : List (Char × String)
  operands : List String

namespace Given

def has (g : Given) (c : Char) : Bool :=
  g.options.any fun x => x.1 = c

/-- The argument of an option that was given, the last one if it was given more than once. -/
def value? (g : Given) (c : Char) : Option String :=
  g.options.reverse.lookup c

/-- The last of several options that exclude one another. -/
def last? (g : Given) (cs : String) : Option Char :=
  (g.options.reverse.find? fun x => cs.contains x.1).map Prod.fst

end Given

namespace Task

/-- Points to the help of the program, and ends it. -/
def hint {α : Type} (code : Nat) (usage : String) : Task α := do
  if usage ≠ "" then complainPlain usage
  complainPlain ("Try '" ++ (← get).name ++ " --help' for more information.")
  quit code

/-- Tells what is wrong with the arguments, points to the help, and ends the program. -/
def misuse {α : Type} (code : Nat) (message : String) : Task α := do
  complain message
  hint code ""

/-- An option word, with what follows its equals sign. -/
def optionWord (s : OptionSet) (word : String) : Task (Char × Option String) := do
  let refuse (message : String) : Task (Char × Option String) := do
    complain message
    hint s.misuse s.usage
  let (name, value) := match word.splitOn "=" with
    | name :: (v :: more) => (name, some ("=".intercalate (v :: more)))
    | _ => (word, none)
  let exact := s.words.filter fun x => x.1 = name
  let fitting := if exact.isEmpty then s.words.filter fun x => x.1.startsWith name else exact
  match fitting with
  | [] => refuse ("unrecognized option '--" ++ word ++ "'")
  | (found, c) :: more =>
    if more.any fun x => x.2 ≠ c then
      refuse ("option '--" ++ word ++ "' is ambiguous; possibilities:" ++
        String.join (fitting.map fun x => " '--" ++ x.1 ++ "'"))
    else if value.isSome && !s.arguments.contains c then
      refuse ("option '--" ++ found ++ "' doesn't allow an argument")
    else return (c, value)

/-- The options and operands among the arguments. The letters of an argument that are left are
held apart from the arguments after it. -/
def parseOptions (s : OptionSet) : Nat → List Char → List String → Given → Task Given
  | 0, _, _, g => return g
  | n + 1, c :: letters, args, g => do
    if s.letters.contains c then
      parseOptions s n letters args { g with options := (c, "") :: g.options }
    else if s.arguments.contains c then
      match letters, args with
      | [], [] =>
        complain ("option requires an argument -- '" ++ String.singleton c ++ "'")
        hint s.misuse s.usage
      | [], value :: args =>
        parseOptions s n [] args { g with options := (c, value) :: g.options }
      | _, _ =>
        parseOptions s n [] args { g with options := (c, String.ofList letters) :: g.options }
    else
      complain ("invalid option -- '" ++ String.singleton c ++ "'")
      hint s.misuse s.usage
  | n + 1, [], arg :: args, g => do
    match arg.toList with
    | ['-', '-'] => return { g with operands := args.reverse ++ g.operands }
    | '-' :: '-' :: word =>
      match ← optionWord s (String.ofList word) with
      | (c, some value) => parseOptions s n [] args { g with options := (c, value) :: g.options }
      | (c, none) =>
        if s.arguments.contains c then
          match args with
          | value :: args =>
            parseOptions s n [] args { g with options := (c, value) :: g.options }
          | [] =>
            complain ("option '" ++ arg ++ "' requires an argument")
            hint s.misuse s.usage
        else parseOptions s n [] args { g with options := (c, "") :: g.options }
    | '-' :: c :: letters => parseOptions s n (c :: letters) args g
    | _ =>
      if s.strict then return { g with operands := (arg :: args).reverse ++ g.operands }
      else parseOptions s n [] args { g with operands := arg :: g.operands }
  | _, [], [], g => return g

def options (s : OptionSet) (args : List String) : Task Given := do
  let fuel := (args.map fun a => a.length + 1).foldl (· + ·) 1
  let g ← parseOptions s fuel [] args ⟨[], []⟩
  return ⟨g.options.reverse, g.operands.reverse⟩

end Task
end PlcModule.Host
