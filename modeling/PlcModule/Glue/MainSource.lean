import PlcModule.Glue.CallPlan
import PlcModule.Project.Location
import PlcModule.Template

/-! The texts that go into the main source: prototypes of the functions of each extension, and
the calls of them. Starting sets the level before each call and ends at the first that fails,
so cleaning up, which asks for the level, undoes what was started and nothing else. -/
namespace PlcModule

/-- The texts of a main source, by placeholder. -/
structure MainFragments where
  callsPrototypes : String
  retrieveCalls : String
  publishCalls : String
  initCalls : String
  cleanupCalls : String
  deriving DecidableEq, Repr

namespace MainFragments

def empty : MainFragments :=
  ⟨"", "", "", "", ""⟩

/-- What stands between two calls. -/
def separator : String := "\n    "

def prototypes (key : String) : String :=
  "int __init_" ++ key ++ "(int argc,char **argv);\n" ++
  "void __cleanup_" ++ key ++ "(void);\n" ++
  "void __retrieve_" ++ key ++ "(void);\n" ++
  "void __publish_" ++ key ++ "(void);"

def retrieveCall (key : String) : String :=
  "__retrieve_" ++ key ++ "();"

def publishCall (key : String) : String :=
  "__publish_" ++ key ++ "();"

def initCall (c : StagedCall) : String :=
  "init_level=" ++ toString c.level ++ "; if((res = __init_" ++ c.key ++
  "(argc,argv))) \x7b return res; \x7d"

def cleanupCall (c : StagedCall) : String :=
  "if(init_level >= " ++ toString c.level ++ ") __cleanup_" ++ c.key ++ "();"

def ofPlan (p : CallPlan) : MainFragments where
  callsPrototypes := "\n".intercalate (p.forward.map prototypes)
  retrieveCalls := separator.intercalate (p.forward.map retrieveCall)
  publishCalls := separator.intercalate (p.backward.map publishCall)
  initCalls := separator.intercalate (p.initCalls.map initCall)
  cleanupCalls := separator.intercalate (p.cleanupCalls.map cleanupCall)

/-- Whether a key can stand in the name of a C function. -/
def isUsableKey (key : String) : Bool :=
  !key.isEmpty && key.toList.all fun c => c.isAlphanum || c == '_'

/-- The keys of the locations that the main source calls, in project order. -/
def callableKeys (locations : List Location) : List String :=
  (locations.filter Location.hasCalls).map Location.key

/-- The texts for a project's locations. With extensions disabled nothing is called, and no key
is looked at. -/
def ofLocations (locations : List Location) (extensionsDisabled : Bool) :
    Except BuildError MainFragments :=
  if extensionsDisabled then .ok empty
  else match (callableKeys locations).find? fun key => !isUsableKey key with
    | some key => .error (.extraction (.unusableKey key))
    | none => .ok (ofPlan ⟨callableKeys locations⟩)

def values (f : MainFragments) : Values := [
  ("calls_prototypes", f.callsPrototypes),
  ("retrieve_calls", f.retrieveCalls),
  ("publish_calls", f.publishCalls),
  ("init_calls", f.initCalls),
  ("cleanup_calls", f.cleanupCalls)]

def render (f : MainFragments) (t : Template) : Except BuildError String :=
  t.render f.values

end MainFragments
end PlcModule
