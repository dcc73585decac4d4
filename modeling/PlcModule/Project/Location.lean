import PlcModule.Path

/-! Locations: the scopes that generated code comes in. The main code and the code of the
program are plain scopes; an extension is a callable one, whose functions the rendered main
source calls. -/
namespace PlcModule

/-- A generated C file with the flags it is compiled with. -/
structure SourceUnit where
  file : Path
  cflags : String
  deriving DecidableEq, Repr

def SourceUnit.isCSource (u : SourceUnit) : Bool :=
  u.file.fileExtension == some "c"

structure Location where
  key : String
  callable : Bool
  sources : List SourceUnit
  deriving DecidableEq, Repr

namespace Location

/-- Whether the main source calls into this location. -/
def hasCalls (l : Location) : Bool :=
  l.callable && !l.sources.isEmpty

/-- Whether this location's C sources go into the module. -/
def isCompiled (l : Location) : Bool :=
  !l.callable && !l.sources.isEmpty

def displayName (l : Location) : String :=
  if l.key = "" then "main code" else if l.key = "()" then "plc code" else l.key

end Location
end PlcModule
