import PlcModule.Project.Basic

/-! What a build asks of a project. Any supplier will do that answers these questions; a project
file is one of them. -/
namespace PlcModule

structure BuildInput where
  /-- In starting order. -/
  locations : List Location
  extensionsDisabled : Bool
  /-- The inventory as far as the files on hand yield it. -/
  inventory : FileTree → Except BuildError Inventory

def Project.input (p : Project) : BuildInput where
  locations := p.locations
  extensionsDisabled := p.extensionsDisabled
  inventory := p.inventory

end PlcModule
