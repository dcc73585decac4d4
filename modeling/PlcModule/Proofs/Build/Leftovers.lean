import PlcModule.Proofs.Build.Plan
import PlcModule.Proofs.Build.Success
import PlcModule.Proofs.FileTree.Alongside
import PlcModule.Proofs.Text.Entries

/-! What builds of a module leave behind in its build directory: the glue sources and the header,
objects and images, the staged module, the module and its record. A build makes all of these anew
before it looks at any, so what an earlier build has left makes no difference. -/
namespace PlcModule

namespace Text

variable {separator : Char} {cs piece : List Char}

theorem notMem_of_mem_splitAt (h : piece ∈ splitAt separator cs) : separator ∉ piece := by
  induction cs generalizing piece with
  | nil => simp_all [splitAt]
  | cons c rest ih =>
    simp only [splitAt] at h
    split at h
    · rcases List.mem_cons.mp h with rfl | later
      · exact List.not_mem_nil
      · exact ih later
    · rename_i other
      split at h
      · rw [List.mem_singleton.mp h]
        simpa using Ne.symm other
      · rename_i first pieces split
        rw [split] at ih
        rcases List.mem_cons.mp h with rfl | later
        · simpa using ⟨Ne.symm other, ih List.mem_cons_self⟩
        · exact ih (List.mem_cons_of_mem _ later)

theorem joinAt_dropLast_prefix (separator : Char) (pieces : List (List Char)) :
    joinAt separator pieces.dropLast <+: joinAt separator pieces := by
  by_cases empty : pieces.dropLast = []
  · rw [empty]
    exact List.nil_prefix
  · have filled : pieces ≠ [] := by
      rintro rfl
      exact empty rfl
    have whole : joinAt separator (pieces.dropLast ++ [pieces.getLast filled]) = _ :=
      joinAt_append empty (List.cons_ne_nil _ _)
    rw [List.dropLast_append_getLast] at whole
    exact ⟨_, whole.symm⟩

end Text

namespace Path

theorem cutName_prefix (name : String) : (cutName name).1.toList <+: name.toList := by
  simp only [cutName]
  split
  · exact List.prefix_rfl
  · have front := Text.joinAt_dropLast_prefix '.' (Text.splitAt '.' name.toList)
    rw [Text.joinAt_splitAt] at front
    simpa using front

/-- A file name is a piece of its path that stands for something. -/
theorem fileName_piece {p : Path} {name : String} (h : p.fileName = some name) :
    ∃ piece ∈ p.cut.2, pieceComponent piece = some (.name name) := by
  simp only [fileName] at h
  split at h
  · rename_i last
    cases h
    have member := List.mem_of_getLast? last
    simp only [components, List.mem_append, List.mem_filterMap] at member
    rcases member with start | component
    · revert start
      unfold startComponents
      split <;> simp
    · exact component
  · cases h

theorem pieceComponent_name {piece : List Char} {name : String}
    (h : pieceComponent piece = some (.name name)) : name = String.ofList piece ∧ name ≠ "" := by
  simp only [pieceComponent] at h
  split at h
  · cases h
  rename_i busy
  split at h
  · cases h
  · cases h
    refine ⟨rfl, fun empty => busy ?_⟩
    have none : piece = [] := by simpa using empty
    simp [isIdle, none]

theorem fileName_slash {p : Path} {name : String} (h : p.fileName = some name) :
    '/' ∉ name.toList := by
  obtain ⟨piece, cut, component⟩ := fileName_piece h
  obtain ⟨rfl, -⟩ := pieceComponent_name component
  have plain : '/' ∉ piece := by
    rcases p.cut_cases with ⟨rest, -, eq⟩ | ⟨-, eq⟩ | ⟨rest, -, eq⟩ | ⟨-, eq⟩
    all_goals rw [eq] at cut
    · exact Text.notMem_of_mem_splitAt cut
    · cases cut
    · exact Text.notMem_of_mem_splitAt cut
    · exact Text.notMem_of_mem_splitAt cut
  simpa using plain

end Path

theorem EndsAsIntermediate.plain {name : String} (h : EndsAsIntermediate name)
    (slash : '/' ∉ name.toList) : IsPlainName name := by
  refine ⟨?_, slash, ?_, ?_⟩
  all_goals
    rintro rfl
    revert h
    decide

namespace ObjectName

theorem stemOf_slash (source : Path) : '/' ∉ (stemOf source).toList := by
  simp only [stemOf, Path.fileStem]
  cases named : source.fileName with
  | none => decide
  | some name => exact fun at_ => Path.fileName_slash named ((Path.cutName_prefix name).subset at_)

theorem candidate_plain {stem : String} (slash : '/' ∉ stem.toList) (n : Nat) :
    IsPlainName (candidate stem n) := by
  refine (candidate_ends stem n).plain ?_
  have digits := Text.not_mem_digits (c := '/') (by decide) n
  unfold candidate
  split
  · simpa using slash
  · simp only [String.toList_append, List.mem_append, not_or]
    exact ⟨⟨⟨slash, by decide⟩, digits⟩, by decide⟩

end ObjectName

/-- A job compiles a source of the module to an object with a name of its own. -/
theorem CompileGroup.planned {dir : Path} {locations : List Location} {job : CompileJob}
    (h : job ∈ planJobs (plan dir locations)) : job.unit ∈ BuildPlan.units dir locations ∧
      ∃ name, IsPlainName name ∧ EndsAsIntermediate name ∧ job.object = dir.child name := by
  rw [planJobs_plan, ← List.map_uncurry_zip_eq_zipWith] at h
  obtain ⟨⟨unit, object⟩, pair, rfl⟩ := List.mem_map.mp h
  obtain ⟨listed, made⟩ := List.of_mem_zip pair
  obtain ⟨name, assigned, rfl⟩ := List.mem_map.mp made
  obtain ⟨source, n, rfl⟩ := ObjectName.assign_candidate assigned
  exact ⟨listed, _, ObjectName.candidate_plain (ObjectName.stemOf_slash source) n,
    ObjectName.candidate_ends _ n, rfl⟩

namespace ModuleStore

variable {cwd : Route} {s : ModuleStore} {name : String}

/-- The names of what is left behind. -/
def LeavesBehind (s : ModuleStore) (name : String) : Prop :=
  name ∈ glueNames ∨ name ∈ [s.binaryName, s.binaryName ++ ".tmp", hashFileName] ∨
    IsPlainName name ∧ EndsAsIntermediate name

/-- Where it is left. -/
def leftovers (cwd : Route) (s : ModuleStore) : Set Route :=
  {l | ∃ name, s.LeavesBehind name ∧ l = s.buildDir.route cwd ++ [name]}

theorem LeavesBehind.plain (named : IsModuleName s.binaryName) (h : s.LeavesBehind name) :
    IsPlainName name := by
  rcases h with glue | rest | ⟨plain, -⟩
  · exact glueNames_plain glue
  · simp only [List.mem_cons, List.not_mem_nil, or_false] at rest
    rcases rest with rfl | rfl | rfl
    · exact named.plain
    · exact staged_plain named.plain
    · decide
  · exact plain

/-- The image is named after the project, as the module is. -/
theorem image_plain (plain : IsPlainName s.binaryName) :
    IsPlainName s.imageName ∧ EndsAsIntermediate s.imageName := by
  have ends : EndsAsIntermediate s.imageName := .inr (by simp [imageName])
  have slash : '/' ∉ s.projectName.toList := fun at_ => plain.2.1 (by simp [binaryName, at_])
  refine ⟨ends.plain ?_, ends⟩
  simpa [imageName] using slash

theorem mem_leftovers {l : Route} :
    l ++ [name] ∈ s.leftovers cwd ↔ s.LeavesBehind name ∧ l = s.buildDir.route cwd := by
  constructor
  · rintro ⟨n, left, eq⟩
    obtain ⟨rfl, last⟩ := List.append_inj' eq rfl
    cases last
    exact ⟨left, rfl⟩
  · rintro ⟨left, rfl⟩
    exact ⟨name, left, rfl⟩

theorem notMem_leftovers {l : Route} (elsewhere : l.dropLast ≠ s.buildDir.route cwd) :
    l ∉ s.leftovers cwd := by
  rintro ⟨n, -, rfl⟩
  exact elsewhere (List.dropLast_concat)

theorem child_mem_leftovers (named : IsModuleName s.binaryName) (h : s.LeavesBehind name)
    (cwd : Route) : (s.buildDir.child name).route cwd ∈ s.leftovers cwd := by
  rw [Path.route_child (h.plain named)]
  exact mem_leftovers.mpr ⟨h, rfl⟩

end ModuleStore
end PlcModule
