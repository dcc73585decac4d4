import PlcModule.Project.Inventory
import PlcModule.Template

/-! The texts that go into the debug source. Each variable that is no function block has a
descriptor; descriptors are numbered in inventory order, and every table goes by that number. -/
namespace PlcModule

/-- How a descriptor reaches its variable. -/
inductive DescriptorTag where
  /-- Through a pointer to a value that is kept elsewhere. -/
  | pointer
  /-- Through a pointer to a value of its own. -/
  | owned
  | plain
  deriving DecidableEq, Repr

namespace DescriptorTag

/-- The tag of a category. Function blocks have no descriptor. -/
def ofCategory? : Category → Option DescriptorTag
  | .external | .input => some pointer
  | .memory | .output => some owned
  | .plain => some plain
  | .functionBlock => none

def enumName (tag : DescriptorTag) (iecType : String) : String :=
  match tag with
  | pointer => iecType ++ "_P_ENUM"
  | owned => iecType ++ "_O_ENUM"
  | plain => iecType ++ "_ENUM"

end DescriptorTag

structure Descriptor where
  index : Nat
  var : Variable
  tag : DescriptorTag
  deriving DecidableEq, Repr

namespace Descriptor

/-- The descriptor as an entry of a C array. -/
def literal (d : Descriptor) : String :=
  "\x7b&(" ++ d.var.path ++ "), " ++ d.tag.enumName d.var.iecType ++ "\x7d"

/-- The descriptors of the variables, in order of their index. -/
def table (vars : List Variable) : List Descriptor :=
  let tagged := vars.filterMap fun v => (DescriptorTag.ofCategory? v.category).map (v, ·)
  tagged.mapIdx fun i x => ⟨i, x.1, x.2⟩

/-- The indices of the retained variables. -/
def retained (ds : List Descriptor) : List Nat :=
  (ds.filter fun d => d.var.retain).map Descriptor.index

def retainEntry (d : Descriptor) : String :=
  "/* " ++ d.var.path ++ " */ " ++ toString d.index

theorem index_table (vars : List Variable) (i : Nat) (h : i < (table vars).length) :
    (table vars)[i].index = i := by
  simp [table]

end Descriptor

/-- The texts of a debug source, by placeholder. -/
structure DebugFragments where
  programsDeclarations : String
  externVariablesDeclarations : String
  variableDeclArray : String
  retainIndexArray : String
  accessCode : String
  pointerAssignments : String
  deriving DecidableEq, Repr

namespace DebugFragments

def programDeclaration (p : Program) : String :=
  "extern " ++ p.typeName ++ " " ++ p.path ++ ";"

def variableDeclaration (v : Variable) : String :=
  match v.category with
  | .external | .input | .memory | .output => "extern __IEC_" ++ v.iecType ++ "_p " ++ v.path ++ ";"
  | .plain => "extern __IEC_" ++ v.iecType ++ "_t " ++ v.path ++ ";"
  | .functionBlock => "extern       " ++ v.iecType ++ "   " ++ v.path ++ ";"

def pointerAssignment (i : Nat) : String :=
  "\tptr[" ++ toString i ++ "] = dbgvardsc[" ++ toString i ++ "].ptr;"

def ofInventory (inventory : Inventory) (accessCode : String) : DebugFragments :=
  let table := Descriptor.table inventory.vars
  { programsDeclarations := "\n".intercalate (inventory.programs.map programDeclaration)
    externVariablesDeclarations :=
      "\n".intercalate ((inventory.vars.filter Variable.isTopLevel).map variableDeclaration)
    variableDeclArray := ",\n".intercalate (table.map Descriptor.literal)
    retainIndexArray :=
      ",\n".intercalate ((table.filter fun d => d.var.retain).map Descriptor.retainEntry)
    accessCode
    pointerAssignments := "\n".intercalate ((List.range table.length).map pointerAssignment) }

def values (f : DebugFragments) : Values := [
  ("programs_declarations", f.programsDeclarations),
  ("extern_variables_declarations", f.externVariablesDeclarations),
  ("variable_decl_array", f.variableDeclArray),
  ("retain_vardsc_index_array", f.retainIndexArray),
  ("var_access_code", f.accessCode),
  ("dbg_ptr_cnt", f.pointerAssignments)]

def render (f : DebugFragments) (t : Template) : Except BuildError String :=
  t.render f.values

end DebugFragments
end PlcModule
