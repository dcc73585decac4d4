/-! Shell scripts as they are once they are read: words and commands. -/
namespace PlcModule.Host.Shell

/-- What happens to a parameter that has no value. -/
inductive Fallback where
  /-- Another word stands in for it. -/
  | use
  | assign
  | complain
  /-- The word stands for the value, if there is one. -/
  | replace
  deriving DecidableEq, Repr

inductive OpenMode where
  | read
  | write
  /-- Writes over a file even where files are protected. -/
  | force
  | append
  | both
  deriving DecidableEq, Repr

mutual

/-- A piece of a word. A quoted piece is neither split nor a pattern. -/
inductive Part where
  | char (c : Char) (quoted : Bool)
  /-- Quotes with nothing in between. -/
  | quotes
  | parameter (name : String) (edit : Edit) (quoted : Bool)
  | output (body : Command) (quoted : Bool)
  | number (formula : List Part) (quoted : Bool)

inductive Edit where
  | keep
  | length
  /-- Looks whether there is a value, or one that is not empty. -/
  | missing (orEmpty : Bool) (fallback : Fallback) (word : List Part)
  /-- Cuts off what a pattern matches at one end, as little or as much as possible. -/
  | cut (atEnd longest : Bool) (pattern : List Part)
  | senseless

inductive Redirect where
  | file (descriptor : Nat) (mode : OpenMode) (name : List Part)
  /-- Sends a descriptor to where another one goes, or closes it. -/
  | same (descriptor : Nat) (other : List Part)
  /-- Reads from lines of the script, by the number under which they were taken in. -/
  | document (descriptor : Nat) (number : Nat)

inductive Command where
  | nothing
  | simple (line : Nat) (settings : List (String × List Part)) (words : List (List Part))
      (redirects : List Redirect)
  | pipe (stages : List Command) (background : Bool)
  | redirected (line : Nat) (body : Command) (redirects : List Redirect)
  | subshell (line : Nat) (body : Command) (redirects : List Redirect)
  | background (body : Command) (redirects : List Redirect)
  | sequence (first second : Command)
  | both (first second : Command)
  | either (first second : Command)
  | negation (body : Command)
  | choose (test yes no : Command)
  /-- Goes round as long as the test succeeds, or until it does. -/
  | loop (until_ : Bool) (test body : Command)
  | each (line : Nat) (name : String) (words : List (List Part)) (body : Command)
  | select (line : Nat) (subject : List Part) (arms : List (List (List Part) × Command))
  | define (name : String) (body : Command)

end

abbrev Word := List Part

instance : Inhabited Command := ⟨.nothing⟩

/-- The lines that a redirection reads from. Without quotes around their end mark they are
expanded. -/
abbrev Document := Word

end PlcModule.Host.Shell
