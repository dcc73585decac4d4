/-! What a project lets a debugger see: instances of programs, and variables by category. -/
namespace PlcModule

inductive Category where
  | external
  | input
  | memory
  | output
  | plain
  | functionBlock
  deriving DecidableEq, Repr

namespace Category

def all : List Category :=
  [external, input, memory, output, plain, functionBlock]

/-- The category as documents write it. -/
def text : Category → String
  | external => "EXT"
  | input => "IN"
  | memory => "MEM"
  | output => "OUT"
  | plain => "VAR"
  | functionBlock => "FB"

def ofText? (s : String) : Option Category :=
  all.find? fun c => c.text == s

theorem ofText?_text (c : Category) : ofText? c.text = some c := by
  cases c <;> decide

end Category

structure Variable where
  path : String
  category : Category
  iecType : String
  retain : Bool
  deriving DecidableEq, Repr

/-- A variable that is no member of another has a declaration of its own. -/
def Variable.isTopLevel (v : Variable) : Bool :=
  !v.path.toList.contains '.'

structure Program where
  typeName : String
  path : String
  deriving DecidableEq, Repr

structure Inventory where
  programs : List Program
  vars : List Variable
  deriving DecidableEq, Repr

end PlcModule
