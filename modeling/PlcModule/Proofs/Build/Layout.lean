import PlcModule.Build.Plan
import PlcModule.Build.Store
import PlcModule.Proofs.FileTree.Change

/-! The files of a build directory. A build works on its glue sources, objects, linked image and
staged module; the module and the file with its digest lie apart from all of these, unless the
module is named like one of them. -/
namespace PlcModule

namespace Text

theorem splitAt_append_of_not_mem {separator : Char} (cs : List Char) {tail : List Char}
    (h : separator ∉ tail) :
    ∃ pieces last, splitAt separator (cs ++ tail) = pieces ++ [last ++ tail] := by
  induction cs with
  | nil => exact ⟨[], [], by simpa using splitAt_of_not_mem h⟩
  | cons c rest ih =>
    obtain ⟨pieces, last, eq⟩ := ih
    by_cases same : c = separator
    · exact ⟨[] :: pieces, last, by simp [splitAt, same, eq]⟩
    · simp only [List.cons_append, splitAt, same, if_false, eq]
      cases pieces with
      | nil => exact ⟨[], c :: last, by simp⟩
      | cons piece pieces => exact ⟨(c :: piece) :: pieces, last, by simp⟩

end Text

theorem Path.cutName_suffix {name extension : String} (h : (cutName name).2 = some extension) :
    '.' :: extension.toList <:+ name.toList := by
  have whole := Text.joinAt_splitAt '.' name.toList
  have filled := Text.splitAt_ne_nil '.' name.toList
  simp only [cutName] at h
  split at h
  · cases h
  rename_i stem
  have split := List.dropLast_append_getLast filled
  have last : (Text.splitAt '.' name.toList).getLast filled = extension.toList := by
    rw [List.getLast?_eq_some_getLast filled] at h
    simpa using congrArg (Option.map String.toList) h
  have front : (Text.splitAt '.' name.toList).dropLast ≠ [] := by
    intro empty
    rw [empty] at stem
    exact stem rfl
  rw [last] at split
  rw [← whole, ← split, Text.joinAt_append front (by simp)]
  simp [Text.joinAt]

/-- A name that a build takes for an object or a linked image. -/
def EndsAsIntermediate (name : String) : Prop :=
  ".o".toList <:+ name.toList ∨ ".elf".toList <:+ name.toList

instance (name : String) : Decidable (EndsAsIntermediate name) :=
  inferInstanceAs (Decidable (_ ∨ _))

theorem FileTree.endsAsIntermediate {name : String} (h : isIntermediateName name = true) :
    EndsAsIntermediate name := by
  simp only [isIntermediateName] at h
  split at h
  · rename_i extension cut
    have suffix := Path.cutName_suffix cut
    rcases Bool.or_eq_true_iff.mp h with eq | eq
    · rw [eq_of_beq eq] at suffix; exact .inl suffix
    · rw [eq_of_beq eq] at suffix; exact .inr suffix
  · cases h

/-- Where objects and linked images are. -/
def intermediateRoutes : Set Route :=
  {l | ∃ name, l.getLast? = some name ∧ EndsAsIntermediate name}

theorem FileTree.pathNames_of_suffix {name : String} {suffix : List Char} (slash : '/' ∉ suffix)
    (filled : suffix ≠ []) (h : suffix <:+ name.toList) :
    ∃ names last, pathNames ⟨name⟩ = names ++ [last] ∧ suffix <:+ last.toList := by
  obtain ⟨front, eq⟩ := h
  obtain ⟨pieces, last, split⟩ := Text.splitAt_append_of_not_mem front slash
  refine ⟨(pieces.filter (!·.isEmpty)).map String.ofList, String.ofList (last ++ suffix), ?_, ?_⟩
  · simp [pathNames, ← eq, split, List.filter_append, filled]
  · simp

/-- The last name of a path in a directory ends as the name does. -/
theorem FileTree.pathNames_child_suffix {name : String} {suffix : List Char} (slash : '/' ∉ suffix)
    (filled : suffix ≠ []) (h : suffix <:+ name.toList) (dir : Path) :
    ∃ front last, FileTree.pathNames (dir.child name) = front ++ [last] ∧ suffix <:+ last.toList := by
  obtain ⟨names, last, eq, ends⟩ := FileTree.pathNames_of_suffix slash filled h
  cases absolute : Path.isAbsolute ⟨name⟩ with
  | true => exact ⟨names, last, by rw [Path.child, Path.join_absolute _ _ absolute, eq], ends⟩
  | false =>
    refine ⟨FileTree.pathNames dir ++ names, last, ?_, ends⟩
    rw [Path.child, FileTree.pathNames_join _ _ absolute, eq, List.append_assoc]

/-- Whatever else a name holds, its entry in a directory ends as the name does. -/
theorem Path.route_child_suffix {name : String} {suffix : List Char} (slash : '/' ∉ suffix)
    (here : ¬ suffix <:+ ".".toList) (up : ¬ suffix <:+ "..".toList) (h : suffix <:+ name.toList)
    (cwd : Route) (dir : Path) :
    ∃ last, ((dir.child name).route cwd).getLast? = some last ∧ suffix <:+ last.toList := by
  have filled : suffix ≠ [] := by
    rintro rfl
    exact here List.nil_suffix
  obtain ⟨front, last, whole, ends⟩ := FileTree.pathNames_child_suffix slash filled h dir
  have here : last ≠ "." := by rintro rfl; exact here ends
  have up : last ≠ ".." := by rintro rfl; exact up ends
  refine ⟨last, ?_, ends⟩
  simp [Path.route, whole, onward, here, up]

theorem EndsAsIntermediate.route_child {name : String} (h : EndsAsIntermediate name) (cwd : Route)
    (dir : Path) : (dir.child name).route cwd ∈ intermediateRoutes := by
  rcases h with object | image
  · obtain ⟨last, final, ends⟩ :=
      Path.route_child_suffix (by decide) (by decide) (by decide) object cwd dir
    exact ⟨last, final, .inl ends⟩
  · obtain ⟨last, final, ends⟩ :=
      Path.route_child_suffix (by decide) (by decide) (by decide) image cwd dir
    exact ⟨last, final, .inr ends⟩

namespace ObjectName

theorem candidate_ends (stem : String) (n : Nat) : EndsAsIntermediate (candidate stem n) := by
  unfold candidate
  split
  · exact .inl ⟨stem.toList, by simp⟩
  · exact .inl ⟨(stem ++ "_" ++ toString n).toList, by simp⟩

theorem choose_candidate (used : List String) (stem : String) :
    ∃ n, choose used stem = candidate stem n := by
  unfold choose
  cases found : ((List.range (used.length + 1)).map (candidate stem)).find?
      fun name => !used.contains name with
  | none => exact ⟨_, rfl⟩
  | some name =>
    obtain ⟨n, _, eq⟩ := List.mem_map.mp (List.mem_of_find?_eq_some found)
    exact ⟨n, eq.symm⟩

theorem assign_candidate {used : List String} {sources : List Path} {name : String}
    (h : name ∈ assign used sources) : ∃ source n, name = candidate (stemOf source) n := by
  induction sources generalizing used with
  | nil => cases h
  | cons source rest ih =>
    rcases List.mem_cons.mp h with rfl | later
    · obtain ⟨n, eq⟩ := choose_candidate used (stemOf source)
      exact ⟨source, n, eq⟩
    · exact ih later

theorem assign_ends {used : List String} {sources : List Path} {name : String}
    (h : name ∈ assign used sources) : EndsAsIntermediate name := by
  obtain ⟨source, n, rfl⟩ := assign_candidate h
  exact candidate_ends _ n

end ObjectName

/-- Each job of a plan compiles to a name of its own in the build directory. -/
theorem CompileGroup.plan_object {dir : Path} {locations : List Location} {job : CompileJob}
    (h : job ∈ planJobs (plan dir locations)) :
    ∃ name, EndsAsIntermediate name ∧ job.object = dir.child name := by
  have share (groups : List SourceGroup) (names : List String)
      (ends : ∀ name ∈ names, EndsAsIntermediate name)
      (member : job ∈ planJobs (share dir groups names)) :
      ∃ name, EndsAsIntermediate name ∧ job.object = dir.child name := by
    induction groups generalizing names with
    | nil => simp [planJobs, CompileGroup.share] at member
    | cons g rest ih =>
      simp only [planJobs, CompileGroup.share, List.flatMap_cons, List.mem_append] at member
      rcases member with here | later
      · rw [← List.map_uncurry_zip_eq_zipWith] at here
        obtain ⟨⟨u, name⟩, pair, rfl⟩ := List.mem_map.mp here
        exact ⟨name, ends name (List.of_mem_zip pair).2, rfl⟩
      · exact ih _ (fun name at_ => ends name (List.mem_of_mem_drop at_)) later
  exact share _ _ (fun _ at_ => ObjectName.assign_ends at_) h

namespace ModuleStore

variable {cwd : Route} {s : ModuleStore}

/-- The sources and the header that a build makes. -/
def glueRoutes (cwd : Route) (dir : Path) : Set Route :=
  {(dir.child mainSourceName).route cwd, (dir.child debugSourceName).route cwd,
    (dir.child headerName).route cwd}

/-- What a build works on until a new module stands ready. -/
def workRoutes (cwd : Route) (s : ModuleStore) : Set Route :=
  glueRoutes cwd s.buildDir ∪ {s.staged.route cwd} ∪ intermediateRoutes

theorem image_mem (cwd : Route) (s : ModuleStore) : s.image.route cwd ∈ s.workRoutes cwd :=
  .inr (EndsAsIntermediate.route_child (.inr (by simp [imageName])) cwd s.buildDir)

theorem staged_mem (cwd : Route) (s : ModuleStore) : s.staged.route cwd ∈ s.workRoutes cwd :=
  .inl (.inr rfl)

theorem staged_final {name : String} (h : ".tmp".toList <:+ name.toList) :
    ¬ EndsAsIntermediate name := by
  intro ends
  have ending : name.toList.getLast? = some 'p' := by
    obtain ⟨front, eq⟩ := h
    simp [← eq]
  rcases ends with ⟨front, eq⟩ | ⟨front, eq⟩
  all_goals
    rw [← eq] at ending
    simp at ending

/-- Nothing staged is taken for an intermediate. -/
theorem staged_notMem (cwd : Route) (s : ModuleStore) : s.staged.route cwd ∉ intermediateRoutes := by
  rintro ⟨name, last, ends⟩
  have suffix : ".tmp".toList <:+ (s.binaryName ++ ".tmp").toList := by simp
  obtain ⟨name', last', staged⟩ :=
    Path.route_child_suffix (by decide) (by decide) (by decide) suffix cwd s.buildDir
  obtain rfl : name = name' := Option.some.inj (last.symm.trans last')
  exact staged_final staged ends

/-- A name of a module that no other file of a build has. -/
structure IsModuleName (name : String) : Prop where
  plain : IsPlainName name
  final : ¬ EndsAsIntermediate name
  apart : name ∉ [mainSourceName, debugSourceName, headerName, hashFileName]

theorem staged_plain {name : String} (plain : IsPlainName name) : IsPlainName (name ++ ".tmp") := by
  have long : 4 ≤ (name ++ ".tmp").length := by
    rw [String.length_append]
    exact Nat.le_add_left 4 _
  refine ⟨?_, ?_, ?_, ?_⟩
  · rintro eq; rw [eq] at long; exact absurd long (by decide)
  · simpa using plain.2.1
  · rintro eq; rw [eq] at long; exact absurd long (by decide)
  · rintro eq; rw [eq] at long; exact absurd long (by decide)

theorem binary_route (plain : IsPlainName s.binaryName) (cwd : Route) :
    s.binary.route cwd = s.buildDir.route cwd ++ [s.binaryName] :=
  Path.route_child plain cwd s.buildDir

theorem staged_route (plain : IsPlainName s.binaryName) (cwd : Route) :
    s.staged.route cwd = s.buildDir.route cwd ++ [s.binaryName ++ ".tmp"] :=
  Path.route_child (staged_plain plain) cwd s.buildDir

theorem hashFile_route (s : ModuleStore) (cwd : Route) :
    s.hashFile.route cwd = s.buildDir.route cwd ++ [hashFileName] :=
  Path.route_child (by decide) cwd s.buildDir

theorem staged_ne {name n : String} (h : n = name ∨ n = hashFileName) : name ++ ".tmp" ≠ n := by
  intro eq
  rcases h with rfl | rfl
  · have := congrArg String.length eq
    simp at this
  · have := congrArg (fun s => s.toList.getLast?) eq
    simp [hashFileName] at this

theorem mem_workRoutes (plain : IsPlainName s.binaryName) {l : Route} {n : String}
    (h : l ++ [n] ∈ s.workRoutes cwd) :
    n ∈ [mainSourceName, debugSourceName, headerName] ∨ n = s.binaryName ++ ".tmp" ∨
      EndsAsIntermediate n := by
  rcases h with (glue | staged) | ⟨name, last, ends⟩
  · simp only [glueRoutes, Set.mem_insert_iff, Set.mem_singleton_iff,
      Path.route_child (show IsPlainName mainSourceName by decide),
      Path.route_child (show IsPlainName debugSourceName by decide),
      Path.route_child (show IsPlainName headerName by decide)] at glue
    rcases glue with eq | eq | eq
    all_goals
      have same := (List.append_singleton_inj.mp eq).2
      exact .inl (by simp [same])
  · rw [Set.mem_singleton_iff, staged_route plain] at staged
    exact .inr (.inl (List.append_singleton_inj.mp staged).2)
  · have : n = name := by simpa using last
    exact .inr (.inr (this ▸ ends))

/-- A build works neither on a record nor on what is named for a module, in whatever directory, but
for its own staged module. -/
theorem notMem_workRoutes_of (plain : IsPlainName s.binaryName) {n : String}
    (h : IsModuleName n ∨ n = hashFileName) (other : s.binaryName ++ ".tmp" ≠ n) (l : Route) :
    l ++ [n] ∉ s.workRoutes cwd := by
  intro member
  rcases mem_workRoutes plain member with glue | staged | ends
  · rcases h with named | rfl
    · exact named.apart (List.mem_append_left [hashFileName] glue)
    · revert glue; decide
  · exact other staged.symm
  · rcases h with named | rfl
    · exact named.final ends
    · revert ends; decide

/-- No build of a module works on that module in place, nor on the digest beside it, in whatever
directory. -/
theorem notMem_workRoutes (named : IsModuleName s.binaryName) {n : String}
    (h : n = s.binaryName ∨ n = hashFileName) (l : Route) : l ++ [n] ∉ s.workRoutes cwd :=
  notMem_workRoutes_of named.plain (h.imp_left (· ▸ named)) (staged_ne h) l

end ModuleStore
end PlcModule
