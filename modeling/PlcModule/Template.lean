import PlcModule.BuildError
import PlcModule.FileTree.Operations
import PlcModule.Text.Word

/-! Templates. A text is read from the left as single characters, doubled percent signs and
placeholders, a placeholder being `%(`, one or more word characters and `)s`. Rendering puts a
value for each placeholder and one percent sign for two, and keeps the rest. -/
namespace PlcModule

/-- What a template is read as. -/
inductive Token where
  | plain (c : Char)
  | percent
  | placeholder (key : List Char)
  deriving DecidableEq, Repr

namespace Token

/-- The key of a placeholder whose percent sign has been read, and the text after it. -/
def key? : List Char → Option (List Char × List Char)
  | '(' :: rest =>
    match rest.takeWhile Text.isWord, rest.dropWhile Text.isWord with
    | c :: cs, ')' :: 's' :: tail => some (c :: cs, tail)
    | _, _ => none
  | _ => none

theorem key?_eq_some {cs key tail : List Char} (h : key? cs = some (key, tail)) :
    cs = '(' :: (key ++ ')' :: 's' :: tail) := by
  unfold key? at h
  split at h
  · rename_i rest
    split at h
    · rename_i c cs' tail' taken dropped
      obtain ⟨rfl, rfl⟩ : c :: cs' = key ∧ tail' = tail := by simpa using h
      have whole := List.takeWhile_append_dropWhile (p := Text.isWord) (l := rest)
      rw [taken, dropped] at whole
      rw [← whole]
    · simp at h
  · simp at h

theorem key?_length {cs key tail : List Char} (h : key? cs = some (key, tail)) :
    tail.length < cs.length := by
  rw [key?_eq_some h]
  simp
  omega

/-- Reads a text from the left. -/
def scan (cs : List Char) : List Token :=
  match cs with
  | [] => []
  | c :: rest =>
    if c = '%' then
      match _h : key? rest with
      | some (key, tail) => placeholder key :: scan tail
      | none =>
        if rest.head? = some '%' then percent :: scan rest.tail else plain c :: scan rest
    else plain c :: scan rest
termination_by cs.length
decreasing_by
  · have := key?_length _h
    simp
    omega
  · rw [List.length_tail, List.length_cons]
    omega
  · simp
  · simp

/-- The text that a token was read from. -/
def source : Token → List Char
  | plain c => [c]
  | percent => ['%', '%']
  | placeholder key => '%' :: '(' :: (key ++ [')', 's'])

/-- The text that a token is rendered as. -/
def render (value : List Char → List Char) : Token → List Char
  | plain c => [c]
  | percent => ['%']
  | placeholder key => value key

def placeholder? : Token → Option (List Char)
  | placeholder key => some key
  | _ => none

end Token

/-- The values of placeholders, by key. -/
abbrev Values := List (String × String)

structure Template where
  path : Path
  content : String
  deriving DecidableEq, Repr

namespace Template

def tokens (t : Template) : List Token :=
  Token.scan t.content.toList

/-- The keys of the placeholders, in the order of the text. -/
def keys (t : Template) : List String :=
  (t.tokens.filterMap Token.placeholder?).map String.ofList

/-- Renders a template if there is a value for every key. Values are put as they are and are
not read again. -/
def render (t : Template) (values : Values) : Except BuildError String :=
  match t.keys.find? fun key => (values.lookup key).isNone with
  | some key => .error (.unknownPlaceholder t.path key)
  | none =>
    let value key := ((values.lookup (String.ofList key)).getD "").toList
    .ok (String.ofList (t.tokens.flatMap (Token.render value)))

def load (tree : FileTree) (path : Path) : Except BuildError Template :=
  match tree.readText path with
  | .ok content => .ok ⟨path, content⟩
  | .error cause => .error (.template path cause)

end Template

/-- The templates of one target, all in a directory of the target's name. -/
structure TemplateSet where
  root : Path
  target : String
  deriving DecidableEq, Repr

namespace TemplateSet

def directory (s : TemplateSet) : Path :=
  s.root.child s.target

def mainTemplate (s : TemplateSet) : Path :=
  s.directory.child (s.target ++ "_main.c")

def debugTemplate (s : TemplateSet) : Path :=
  s.directory.child (s.target ++ "_debug.c")

/-- Code for access to variables, which goes into the debug source as it is. -/
def accessCode (s : TemplateSet) : Path :=
  s.directory.child "var_access.c"

def header (s : TemplateSet) : Path :=
  s.directory.child "beremiz.h"

end TemplateSet
end PlcModule
