import PlcModule.Build.Plan
import PlcModule.Build.Store
import PlcModule.Tool.Toolchain

/-! The plan of a build: the sources it compiles, the objects they are compiled to, and the tools
it runs on them, given outright. -/
namespace PlcModule

/-- A tool to run, and how a failure of it names the step and its subject. -/
structure Task where
  command : Tool.Command
  step : String
  subject : String

/-- The error of a build whose tool was answered so. -/
def Task.failure (t : Task) : Except BuildError Tool.Output → BuildError
  | .ok output => .tool t.step t.subject output.code output.combined
  | .error (.toolSpawn program cause) => .toolUnavailable t.step t.subject program cause
  | .error e => e

namespace BuildPlan

/-- The sources of a module: those made for the project that no location lists, then the C
sources of the locations that are not callable. -/
def units (dir : Path) (locations : List Location) : List SourceUnit :=
  (([mainSourceName, debugSourceName].map dir.child).filter (fun p =>
      ∀ l ∈ locations, ∀ u ∈ l.sources, u.file.components ≠ p.components)).map (fun p => ⟨p, ""⟩) ++
    (locations.filter fun l => !l.callable).flatMap fun l =>
      l.sources.filter fun u => u.file.fileExtension = some "c"

def objects (dir : Path) (locations : List Location) : List Path :=
  (ObjectName.assign [] ((units dir locations).map SourceUnit.file)).map dir.child

/-- What is run for one source. -/
def jobTasks (t : Tool.Toolchain) (job : CompileJob) : List Task :=
  [⟨t.compile job.unit.file job.object job.unit.cflags, "C compilation", job.unit.file.displayName⟩,
    ⟨t.rename job.object, "Symbol rename", job.unit.file.displayName⟩]

def linkTask (t : Tool.Toolchain) (s : ModuleStore) (objects : List Path) : Task :=
  ⟨t.link objects s.image, "Linking", s.image.displayName⟩

def packageTask (t : Tool.Toolchain) (s : ModuleStore) : Task :=
  ⟨t.package s.staged s.image, "Packaging", s.binaryName⟩

/-- Each source is compiled and its object renamed, one source after the other; then the objects
are linked and the image is packaged. Without sources nothing is run. -/
def tasks (t : Tool.Toolchain) (s : ModuleStore) (locations : List Location) : List Task :=
  let objects := objects s.buildDir locations
  let jobs := List.zipWith CompileJob.mk (units s.buildDir locations) objects
  if jobs = [] then []
  else jobs.flatMap (jobTasks t) ++ [linkTask t s objects, packageTask t s]

theorem length_objects (dir : Path) (locations : List Location) :
    (objects dir locations).length = (units dir locations).length := by
  simp [objects, ObjectName.length_assign]

end BuildPlan

namespace SourceGroup

theorem isListed_eq_false (locations : List Location) (p : Path) :
    isListed locations p = false ↔
      ∀ l ∈ locations, ∀ u ∈ l.sources, u.file.components ≠ p.components := by
  simp [isListed, Path.same]

/-- The groups leave out what has no sources to compile, and nothing else. -/
theorem units_all (dir : Path) (locations : List Location) :
    (all dir locations).flatMap units = BuildPlan.units dir locations := by
  have nonempty (groups : List SourceGroup) :
      (groups.filter fun g => !g.units.isEmpty).flatMap units = groups.flatMap units := by
    induction groups with
    | nil => rfl
    | cons g rest ih => cases empty : g.units <;> simp [empty, ih]
  have cSource : SourceUnit.isCSource = fun u => decide (u.file.fileExtension = some "c") := by
    funext u
    exact Bool.eq_iff_iff.mpr (by simp [SourceUnit.isCSource])
  have compiled : ((locations.filter Location.isCompiled).map ofLocation).flatMap units =
      (locations.filter fun l => !l.callable).flatMap fun l =>
        l.sources.filter fun u => u.file.fileExtension = some "c" := by
    induction locations with
    | nil => rfl
    | cons l rest ih =>
      cases called : l.callable <;> cases sources : l.sources <;>
        simp_all [List.filter_cons, Location.isCompiled, ofLocation]
  have made : generated dir locations =
      (([mainSourceName, debugSourceName].map dir.child).filter (fun p =>
        ∀ l ∈ locations, ∀ u ∈ l.sources, u.file.components ≠ p.components)).map
          (fun p => ⟨p, ""⟩) := by
    unfold generated
    congr 1
    refine List.filter_congr fun p _ => ?_
    simp [← isListed_eq_false]
  rw [all, nonempty, List.flatMap_cons, compiled, made, BuildPlan.units]

end SourceGroup

/-- The names are handed out in the order of the sources, whatever the groups. -/
theorem CompileGroup.planJobs_share (dir : Path) (groups : List SourceGroup) (names : List String)
    (enough : names.length = (groups.flatMap SourceGroup.units).length) :
    planJobs (share dir groups names) =
      List.zipWith CompileJob.mk (groups.flatMap SourceGroup.units) (names.map dir.child) := by
  induction groups generalizing names with
  | nil => rfl
  | cons g rest ih =>
    rw [List.flatMap_cons, List.length_append] at enough
    obtain ⟨front, back, rfl, first⟩ : ∃ front back, names = front ++ back ∧
        front.length = g.units.length :=
      ⟨_, _, (List.take_append_drop g.units.length names).symm, by rw [List.length_take]; omega⟩
    have drop : (front ++ back).drop g.units.length = back := by rw [← first, List.drop_left]
    have here : List.zipWith (fun u name => CompileJob.mk u (dir.child name)) g.units
        (front ++ back) = List.zipWith CompileJob.mk g.units (front.map dir.child) := by
      have whole : List.zipWith (fun u name => CompileJob.mk u (dir.child name)) (g.units ++ [])
          (front ++ back) = _ := List.zipWith_append first.symm
      simpa [List.zipWith_map_right] using whole
    have others := ih back (by rw [List.length_append] at enough; omega)
    simp only [planJobs, share, List.flatMap_cons] at others ⊢
    rw [here, drop, others, List.map_append, List.zipWith_append (by simp [first])]

/-- What is compiled, and to what, is as the plan says. -/
theorem CompileGroup.planJobs_plan (dir : Path) (locations : List Location) :
    planJobs (plan dir locations) = List.zipWith CompileJob.mk (BuildPlan.units dir locations)
      (BuildPlan.objects dir locations) := by
  unfold plan
  rw [planJobs_share _ _ _ (by simp [ObjectName.length_assign])]
  simp [SourceGroup.units_all, BuildPlan.objects]

theorem CompileGroup.planJobs_eq_nil {dir : Path} {locations : List Location} :
    planJobs (plan dir locations) = [] ↔ BuildPlan.units dir locations = [] := by
  rw [planJobs_plan, List.zipWith_eq_nil_iff, ← List.length_eq_zero_iff, ← List.length_eq_zero_iff,
    BuildPlan.length_objects]
  simp

/-- The objects of all jobs, in order. -/
theorem CompileGroup.objects_plan (dir : Path) (locations : List Location) :
    (planJobs (plan dir locations)).map CompileJob.object = BuildPlan.objects dir locations := by
  rw [planJobs_plan, ← List.map_uncurry_zip_eq_zipWith, List.map_map]
  exact List.map_snd_zip (Nat.le_of_eq (BuildPlan.length_objects dir locations))

end PlcModule
