import PlcModule.Document.Toml.Reader
import PlcModule.Project.InventoryFile
import PlcModule.Tool.Toolchain

/-! Project files: what is built, for which target and with which tools. -/
namespace PlcModule

structure Project where
  name : String
  target : String
  buildDir : Path
  /-- No extension is called, whatever the locations say. -/
  extensionsDisabled : Bool
  /-- A file to take the inventory from, in place of the project's own. -/
  inventoryFile : Option Path
  toolchain : Tool.Toolchain
  templates : Path
  /-- What the module's file name ends in. -/
  extension : String
  locations : List Location
  programs : List Program
  vars : List Variable
  deriving DecidableEq, Repr

/-- Why there is no project to work with. -/
inductive ProjectError where
  | missing (path : Path)
  | unreadable (path : Path)
  | malformed
  deriving DecidableEq, Repr

def ProjectError.message : ProjectError → String
  | missing path => path.text ++ " not found.\n\n" ++
    "💡 Tip: pass --project <file> or create a plcmod.toml next to the generated sources."
  | unreadable path => "Failed to read " ++ path.text ++ " - check file permissions"
  | malformed => "Failed to parse project file - check for syntax errors or unknown categories"

namespace Project

open Document

/-- The part of a project file that says what is built. -/
structure Section where
  name : String
  target : String
  buildDir : Path
  extensionsDisabled : Bool
  inventoryFile : Option Path

/-- A section given as a list has no way to leave the inventory file out. -/
def Section.ofValue? (v : Value) : Option Section :=
  match v.slots? .toml ["name", "target", "build_dir", "disable_extensions", "inventory"] with
  | some ⟨positional, [name, target, buildDir, disabled, inventory]⟩ => do
    if positional && inventory.isNone then none
    some ⟨← required Value.asText? name, ← required Value.asText? target,
      ← optional ⟨"build"⟩ pathOf? buildDir, ← optional false Value.asBoolean? disabled,
      ← optional none (fun v => (pathOf? v).map some) inventory⟩
  | _ => none

/-- The part of a project file that says what tools there are, and where. -/
structure Equipment where
  toolchain : Tool.Toolchain
  templates : Path
  extension : String

namespace Equipment

def standard : Equipment where
  toolchain :=
    { compiler := ⟨"arm-none-eabi-gcc"⟩
      linker := ⟨"arm-none-eabi-gcc"⟩
      renamer := ⟨"scripts/rename_obj"⟩
      packager := ⟨"scripts/mkmodule"⟩
      linkerScript := ⟨"scripts/code_before_data.ld"⟩
      includeDir := ⟨"scripts/matiec"⟩ }
  templates := ⟨"targets"⟩
  extension := ".bin"

/-- What a file leaves out is as usual. -/
def ofValue? (v : Value) : Option Equipment :=
  let usual := standard.toolchain
  match v.slots? .toml ["compiler", "linker", "renamer", "packager", "linker_script", "include_dir",
    "templates", "extension"] with
  | some ⟨_, [compiler, linker, renamer, packager, script, headers, templates, extension]⟩ => do
    some
      { toolchain :=
          { compiler := ← optional usual.compiler pathOf? compiler
            linker := ← optional usual.linker pathOf? linker
            renamer := ← optional usual.renamer pathOf? renamer
            packager := ← optional usual.packager pathOf? packager
            linkerScript := ← optional usual.linkerScript pathOf? script
            includeDir := ← optional usual.includeDir pathOf? headers }
        templates := ← optional standard.templates pathOf? templates
        extension := ← optional standard.extension Value.asText? extension }
  | _ => none

end Equipment

def ofValue? (v : Value) : Option Project :=
  match v.slots? .toml ["project", "toolchain", "location", "program", "variable"] with
  | some ⟨_, [main, equipment, locations, programs, vars]⟩ => do
    let main ← required Section.ofValue? main
    let equipment ← optional .standard Equipment.ofValue? equipment
    some
      { name := main.name
        target := main.target
        buildDir := main.buildDir
        extensionsDisabled := main.extensionsDisabled
        inventoryFile := main.inventoryFile
        toolchain := equipment.toolchain
        templates := equipment.templates
        extension := equipment.extension
        locations := ← optional [] (Value.asList? (Location.ofValue? .toml)) locations
        programs := ← optional [] (Value.asList? (Program.ofValue? .toml)) programs
        vars := ← optional [] (Value.asList? (Variable.ofValue? .toml)) vars }
  | _ => none

def parse (s : String) : Option Project :=
  (Toml.parse s).bind ofValue?

/-- The inventory that the project file itself holds. -/
def ownInventory (p : Project) : Inventory :=
  ⟨p.programs, p.vars⟩

def inventory (p : Project) (tree : FileTree) : Except BuildError Inventory :=
  match p.inventoryFile with
  | some path => Inventory.load tree path
  | none => .ok p.ownInventory

/-- The path of a tool seen from a directory. A bare name stays, to be looked up where programs
are. -/
def resolveTool (base tool : Path) : Path :=
  if 1 < tool.components.length then base.join tool else tool

/-- Takes the paths of a project as seen from the directory of its file. -/
def resolve (p : Project) (base : Path) : Project :=
  { p with
    buildDir := base.join p.buildDir
    inventoryFile := p.inventoryFile.map base.join
    toolchain :=
      { compiler := resolveTool base p.toolchain.compiler
        linker := resolveTool base p.toolchain.linker
        renamer := resolveTool base p.toolchain.renamer
        packager := resolveTool base p.toolchain.packager
        linkerScript := base.join p.toolchain.linkerScript
        includeDir := base.join p.toolchain.includeDir }
    templates := base.join p.templates
    locations := p.locations.map fun l =>
      { l with sources := l.sources.map fun u => { u with file := base.join u.file } } }

/-- The directory that a project's paths are seen from. -/
def baseOf (path : Path) : Path :=
  match path.parent with
  | some ⟨""⟩ | none => ⟨"."⟩
  | some p => p

/-- Loads a project file, with its paths resolved. -/
def load (tree : FileTree) (path : Path) : Except ProjectError Project :=
  if !tree.pathExists path then .error (.missing path)
  else match tree.readText path with
    | .error _ => .error (.unreadable path)
    | .ok content =>
      match parse content with
      | none => .error .malformed
      | some p => .ok (p.resolve (baseOf path))

end Project
end PlcModule
