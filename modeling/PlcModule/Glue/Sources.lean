import PlcModule.Glue.DebugSource
import PlcModule.Glue.MainSource
import PlcModule.Project.Input

/-! The two sources that are made for a project: the main one, which calls the extensions, and
the debug one, which describes the variables. Either both are made or neither. -/
namespace PlcModule

structure GlueSources where
  main : String
  debug : String
  deriving DecidableEq, Repr

namespace GlueSources

/-- The file that goes into the debug source as it is. -/
def accessCode (tree : FileTree) (templates : TemplateSet) : Except BuildError String :=
  (Template.load tree templates.accessCode).map Template.content

/-- The first stage that fails is the one reported. -/
def generate (tree : FileTree) (templates : TemplateSet) (input : BuildInput) :
    Except BuildError GlueSources := do
  let inventory ← input.inventory tree
  let fragments ← MainFragments.ofLocations input.locations input.extensionsDisabled
  let main ← fragments.render (← Template.load tree templates.mainTemplate)
  let template ← Template.load tree templates.debugTemplate
  let access ← accessCode tree templates
  let debug ← (DebugFragments.ofInventory inventory access).render template
  .ok ⟨main, debug⟩

end GlueSources
end PlcModule
