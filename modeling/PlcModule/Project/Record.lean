import PlcModule.Document.Record
import PlcModule.Project.Inventory
import PlcModule.Project.Location

/-! Locations and inventories as records of documents. Reading takes every form that a record
may have; writing gives every field by its name. -/
namespace PlcModule

open Document

def pathOf? (v : Value) : Option Path :=
  v.asText?.map Path.mk

namespace SourceUnit

def ofValue? (kind : Kind) (v : Value) : Option SourceUnit :=
  match v.slots? kind ["file", "cflags"] with
  | some ⟨_, [file, cflags]⟩ => do
    some ⟨← required pathOf? file, ← optional "" Value.asText? cflags⟩
  | _ => none

def toValue (u : SourceUnit) : Value :=
  .ofFields [("file", .ofText u.file.text), ("cflags", .ofText u.cflags)]

end SourceUnit

namespace Location

def ofValue? (kind : Kind) (v : Value) : Option Location :=
  match v.slots? kind ["key", "callable", "sources"] with
  | some ⟨_, [key, callable, sources]⟩ => do
    some ⟨← optional "" Value.asText? key, ← optional false Value.asBoolean? callable,
      ← optional [] (Value.asList? (SourceUnit.ofValue? kind)) sources⟩
  | _ => none

def toValue (l : Location) : Value :=
  .ofFields [("key", .ofText l.key), ("callable", .boolean l.callable),
    ("sources", .list (l.sources.map SourceUnit.toValue))]

end Location

namespace Category

/-- A category is written as its text, or as a record whose only field has that name and says
nothing. -/
def ofValue? (kind : Kind) : Value → Option Category
  | .text (some s) => ofText? s
  | .record [(some name, v)] => if v.isNothing kind then ofText? name else none
  | _ => none

end Category

namespace Variable

def ofValue? (kind : Kind) (v : Value) : Option Variable :=
  match v.slots? kind ["path", "category", "type", "retain"] with
  | some ⟨_, [path, category, iecType, retain]⟩ => do
    some ⟨← required Value.asText? path, ← required (Category.ofValue? kind) category,
      ← required Value.asText? iecType, ← optional false Value.asBoolean? retain⟩
  | _ => none

def toValue (v : Variable) : Value :=
  .ofFields [("path", .ofText v.path), ("category", .ofText v.category.text),
    ("type", .ofText v.iecType), ("retain", .boolean v.retain)]

end Variable

namespace Program

def ofValue? (kind : Kind) (v : Value) : Option Program :=
  match v.slots? kind ["type", "path"] with
  | some ⟨_, [typeName, path]⟩ => do
    some ⟨← required Value.asText? typeName, ← required Value.asText? path⟩
  | _ => none

def toValue (p : Program) : Value :=
  .ofFields [("type", .ofText p.typeName), ("path", .ofText p.path)]

end Program

namespace Inventory

def ofValue? (kind : Kind) (v : Value) : Option Inventory :=
  match v.slots? kind ["programs", "variables"] with
  | some ⟨_, [programs, vars]⟩ => do
    some ⟨← optional [] (Value.asList? (Program.ofValue? kind)) programs,
      ← optional [] (Value.asList? (Variable.ofValue? kind)) vars⟩
  | _ => none

def toValue (i : Inventory) : Value :=
  .ofFields [("programs", .list (i.programs.map Program.toValue)),
    ("variables", .list (i.vars.map Variable.toValue))]

end Inventory
end PlcModule
