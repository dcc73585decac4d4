import PlcModule.Project.Location

/-! What a build compiles, in which order and to which objects. The two sources that are made
for the project come first, unless the project lists them itself; the other locations follow in
project order. -/
namespace PlcModule

def mainSourceName : String := "plc_main.c"
def debugSourceName : String := "plc_debugger.c"
def headerName : String := "beremiz.h"

namespace ObjectName

/-- What an object is called after `n` others had its name before it. -/
def candidate (stem : String) (n : Nat) : String :=
  if n = 0 then stem ++ ".o" else stem ++ "_" ++ toString n ++ ".o"

def stemOf (source : Path) : String :=
  source.fileStem.getD "unit"

/-- The first candidate that is not in use. Candidates differ from one another, so one more than
there are names in use are enough. -/
def choose (used : List String) (stem : String) : String :=
  ((List.range (used.length + 1)).map (candidate stem)).find? (fun name => !used.contains name)
    |>.getD (candidate stem used.length)

/-- Names for the objects of sources, given in the order of the sources. -/
def assign (used : List String) : List Path → List String
  | [] => []
  | source :: rest =>
    let name := choose used (stemOf source)
    name :: assign (name :: used) rest

theorem length_assign (used : List String) (sources : List Path) :
    (assign used sources).length = sources.length := by
  induction sources generalizing used with
  | nil => rfl
  | cons source rest ih => simp [assign, ih]

end ObjectName

/-- Sources that a log names together. -/
structure SourceGroup where
  label : String
  units : List SourceUnit
  deriving DecidableEq, Repr

namespace SourceGroup

/-- Whether some location lists a source of the same place. -/
def isListed (locations : List Location) (source : Path) : Bool :=
  locations.any fun l => l.sources.any fun u => u.file.same source

/-- The made sources that the project does not list. -/
def generated (dir : Path) (locations : List Location) : List SourceUnit :=
  ([mainSourceName, debugSourceName].map dir.child).filter (fun p => !isListed locations p)
    |>.map fun p => ⟨p, ""⟩

def ofLocation (l : Location) : SourceGroup :=
  ⟨l.displayName, l.sources.filter SourceUnit.isCSource⟩

/-- The groups of a build, none of them empty. -/
def all (dir : Path) (locations : List Location) : List SourceGroup :=
  (⟨"generated code", generated dir locations⟩ ::
    (locations.filter Location.isCompiled).map ofLocation).filter fun g => !g.units.isEmpty

end SourceGroup

/-- A source to compile, and the object it is compiled to. -/
structure CompileJob where
  unit : SourceUnit
  object : Path
  deriving DecidableEq, Repr

structure CompileGroup where
  label : String
  jobs : List CompileJob
  deriving DecidableEq, Repr

namespace CompileGroup

/-- Hands out names to the groups, to each as many as it has sources. -/
def share (dir : Path) : List SourceGroup → List String → List CompileGroup
  | [], _ => []
  | g :: rest, names =>
    ⟨g.label, List.zipWith (fun u name => ⟨u, dir.child name⟩) g.units names⟩ ::
      share dir rest (names.drop g.units.length)

/-- The compile groups of a build. No two objects have one name. -/
def plan (dir : Path) (locations : List Location) : List CompileGroup :=
  let groups := SourceGroup.all dir locations
  share dir groups (ObjectName.assign [] ((groups.flatMap SourceGroup.units).map SourceUnit.file))

end CompileGroup

/-- The jobs of a plan, in order. -/
def planJobs (groups : List CompileGroup) : List CompileJob :=
  groups.flatMap CompileGroup.jobs

end PlcModule
