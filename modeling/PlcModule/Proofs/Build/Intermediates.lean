import Mathlib.Data.Set.Card
import PlcModule.FileTree.Seed
import PlcModule.Proofs.Build.Frame

/-! Clearing up a directory, whatever is in it. The regular files that have the name of an object or
of a linked image go, each is counted, and nothing else changes. -/
namespace PlcModule.FileTree

variable {t u : FileTree} {dir : Path} {name : String} {names : List String}

/-- Some text and after it the ending of an object or of a linked image. -/
def NamesIntermediate (name : String) : Prop :=
  ∃ front : List Char, front ≠ [] ∧
    (name.toList = front ++ ".o".toList ∨ name.toList = front ++ ".elf".toList)

theorem isIntermediateName_iff : isIntermediateName name = true ↔ NamesIntermediate name := by
  constructor
  · intro ends
    -- A name that is nothing but an ending has no extension.
    have more {front suffix : List Char} (text : front ++ suffix = name.toList)
        (bare : isIntermediateName (String.ofList suffix) = false) : front ≠ [] := by
      rintro rfl
      have whole : String.ofList suffix = name := by
        rw [← List.nil_append suffix, text, String.ofList_toList]
      rw [whole, ends] at bare
      cases bare
    rcases endsAsIntermediate ends with ⟨front, text⟩ | ⟨front, text⟩
    · exact ⟨front, more text (by decide), .inl text.symm⟩
    · exact ⟨front, more text (by decide), .inr text.symm⟩
  · rintro ⟨front, filled, text⟩
    exact EndsAsIntermediate.isIntermediateName filled text

/-- Where the regular files are that are right in a directory and have such names. -/
def intermediateFiles (t : FileTree) (dir : Path) : Set Route :=
  {l | ∃ name content x, l = dir.route t.workingDirectory ++ [name] ∧ NamesIntermediate name ∧
    t.find? l = some (.file content x)}

/-- Some file can be removed if it could be with the same directories. -/
theorem removeFile_again {p : Path} (same : SameDirectories t u)
    (there : u.find? (p.route t.workingDirectory) = t.find? (p.route t.workingDirectory))
    (works : ∃ v, t.removeFile p = .ok v) : ∃ v, u.removeFile p = .ok v := by
  obtain ⟨v, removed⟩ := works
  obtain ⟨place, located, removed⟩ := ok_of_bind removed
  rw [← locate_route located] at there
  simp only [removeFile, same.locate located, bind, Except.bind, there]
  split at removed
  · cases removed
  split at removed
  · cases removed
  · cases removed
  · split at removed
    · cases removed
    · simp_all

theorem removeNamed_cons_ok (removed : t.removeFile (dir.child name) = .ok u) :
    (t.removeNamed dir (name :: names)).2 = (u.removeNamed dir names).2 + 1 := by
  simp only [removeNamed, List.foldl_cons, removed]
  refine congrArg Prod.snd (@List.foldl_hom _ _ _ (fun x : FileTree × Nat => (x.1, x.2 + 1)) _ _
    names (u, 0) fun x name => ?_)
  cases x.1.removeFile (dir.child name) <;> rfl

/-- Where each of some names can be removed, all of them are, and are counted. -/
theorem removeNamed_count (distinct : names.Nodup) (plain : ∀ name ∈ names, IsPlainName name)
    (works : ∀ name ∈ names, ∃ u, t.removeFile (dir.child name) = .ok u) :
    (t.removeNamed dir names).2 = names.length := by
  induction names generalizing t with
  | nil => rfl
  | cons name names ih =>
    obtain ⟨fresh, distinct⟩ := List.nodup_cons.mp distinct
    obtain ⟨here, plain⟩ := List.forall_mem_cons.mp plain
    obtain ⟨⟨u, removed⟩, works⟩ := List.forall_mem_cons.mp works
    have change := (removeFile_change removed).1
    have later : ∀ other ∈ names, ∃ v, u.removeFile (dir.child other) = .ok v := by
      intro other member
      refine removeFile_again (removeFile_same removed) (change.find_eq fun same => ?_)
        (works other member)
      rw [Set.mem_singleton_iff, Path.route_child here, Path.route_child (plain other member)] at same
      exact fresh ((List.append_singleton_inj.mp same).2 ▸ member)
    rw [removeNamed_cons_ok removed, ih distinct plain later, List.length_cons]

/-- No two children have one name, as no two entries have one route. -/
theorem children_nodup (t : FileTree) (d : Route) : ((t.children d).map Prod.fst).Nodup := by
  refine .of_map (fun name => d ++ [name]) (List.Sublist.nodup ?_ t.distinct)
  rw [List.map_map, children]
  induction t.entries with
  | nil => exact .slnil
  | cons x rest ih =>
    rw [List.filterMap_cons]
    split
    · exact ih.cons _
    · rename_i child found
      have route : d ++ [child.1] = x.1 := by
        split at found
        · rename_i last
          split at found
          · rename_i front
            cases found
            rw [← front, List.dropLast_append_getLast? _ last]
          · cases found
        · cases found
      rw [List.map_cons, List.map_cons, Function.comp_apply, route]
      exact ih.cons_cons _

theorem intermediates_nodup (t : FileTree) (dir : Path) : (t.intermediates dir).Nodup := by
  unfold intermediates
  split
  · exact (List.filter_sublist.map Prod.fst).nodup (t.children_nodup _)
  · exact List.nodup_nil

/-- The names that are listed are those of the files, if the directory is there. -/
theorem mem_intermediateFiles (there : t.isDirectory dir = true) :
    dir.route t.workingDirectory ++ [name] ∈ t.intermediateFiles dir ↔
      name ∈ t.intermediates dir := by
  rw [mem_intermediates, isIntermediateName_iff]
  constructor
  · rintro ⟨n, content, x, same, names, file⟩
    obtain rfl := (List.append_singleton_inj.mp same).2
    exact ⟨there, names, _, file, rfl⟩
  · rintro ⟨-, names, e, found, file⟩
    cases e with
    | file content x => exact ⟨name, content, x, rfl, names, found⟩
    | directory => cases file
    | device => cases file

theorem intermediateFiles_eq (there : t.isDirectory dir = true) :
    t.intermediateFiles dir =
      {l | ∃ name ∈ t.intermediates dir, dir.route t.workingDirectory ++ [name] = l} := by
  ext l
  constructor
  · rintro ⟨name, content, x, rfl, names, found⟩
    exact ⟨name, (mem_intermediateFiles there).mp ⟨name, content, x, rfl, names, found⟩, rfl⟩
  · rintro ⟨name, listed, rfl⟩
    exact (mem_intermediateFiles there).mpr listed

/-- There are as many files as names. -/
theorem encard_intermediateFiles (there : t.isDirectory dir = true) :
    (t.intermediateFiles dir).encard = (t.intermediates dir).length := by
  have inj : Function.Injective fun name => dir.route t.workingDirectory ++ [name] :=
    fun m n same => (List.append_singleton_inj.mp same).2
  have listed : t.intermediateFiles dir =
      ((t.intermediates dir).map fun name => dir.route t.workingDirectory ++ [name]).toFinset := by
    rw [intermediateFiles_eq there]
    ext l
    simp
  rw [listed, Set.encard_coe_eq_coe_finsetCard,
    List.toFinset_card_of_nodup ((t.intermediates_nodup dir).map inj), List.length_map]

theorem Separated.intermediates_plain (separated : t.Separated) (listed : name ∈ t.intermediates dir) :
    IsPlainName name := by
  obtain ⟨-, ends, e, found, -⟩ := mem_intermediates.mp listed
  exact (endsAsIntermediate ends).plain (separated.of_find found name (by simp))

/-- Each listed name takes its own file away, if it can be removed. -/
theorem takenNamed_intermediates (separated : t.Separated) (there : t.isDirectory dir = true)
    (works : ∀ name ∈ t.intermediates dir, ∃ u, t.removeFile (dir.child name) = .ok u) :
    t.takenNamed dir (t.intermediates dir) = t.intermediateFiles dir := by
  rw [intermediateFiles_eq there]
  ext l
  constructor
  · rintro ⟨name, listed, reaches, -⟩
    refine ⟨name, listed, ?_⟩
    rw [reaches.route_eq, Path.route_child (separated.intermediates_plain listed)]
  · rintro ⟨name, listed, rfl⟩
    have plain := separated.intermediates_plain listed
    obtain ⟨v, removed⟩ := works name listed
    obtain ⟨place, located, -⟩ := ok_of_bind removed
    obtain ⟨named, noSlash⟩ := place_child located plain
    have route := locate_route located
    rw [Path.route_child plain] at route
    obtain ⟨-, -, e, found, file⟩ := mem_intermediates.mp listed
    refine ⟨name, listed, ⟨place, located, by simp [named], noSlash, route⟩, fun directory => ?_⟩
    rw [found] at directory
    cases directory
    cases file

/-- Clearing up a directory removes the regular files right in it whose names are some text and then
the ending of an object or of a linked image, if they can be removed. It counts them and changes
nothing else, and nothing at all where there is no such directory; once it is done, doing it again
does nothing. -/
theorem removeIntermediates_exact (separated : t.Separated)
    (removable : ∀ name, dir.route t.workingDirectory ++ [name] ∈ t.intermediateFiles dir →
      ∃ u, t.removeFile (dir.child name) = .ok u) :
    let u := (t.removeIntermediates dir).1
    let count := (t.removeIntermediates dir).2
    (t.isDirectory dir = false → u = t ∧ count = 0) ∧
    (t.isDirectory dir = true → Without (t.intermediateFiles dir) t u ∧
      (t.intermediateFiles dir).encard = count) ∧
    u.removeIntermediates dir = (u, 0) := by
  intro u count
  have idle {t : FileTree} (none : ∀ name, name ∉ t.intermediates dir) :
      t.removeIntermediates dir = (t, 0) := by
    rw [removeIntermediates, List.eq_nil_iff_forall_not_mem.mpr none]
    rfl
  by_cases there : t.isDirectory dir = true
  swap
  · have idle : t.removeIntermediates dir = (t, 0) :=
      idle fun name listed => there (mem_intermediates.mp listed).1
    refine ⟨fun _ => ?_, fun directory => absurd directory there, ?_⟩
    · simp only [u, count, idle, and_self]
    · simp only [u, idle]
  have works : ∀ name ∈ t.intermediates dir, ∃ u, t.removeFile (dir.child name) = .ok u :=
    fun name listed => removable name ((mem_intermediateFiles there).mpr listed)
  have without : Without (t.intermediateFiles dir) t u :=
    takenNamed_intermediates separated there works ▸ removeNamed_without t dir (t.intermediates dir)
  have counted : count = (t.intermediates dir).length :=
    removeNamed_count (t.intermediates_nodup dir) (fun _ => separated.intermediates_plain) works
  refine ⟨fun absent => absurd there (by simp [absent]), fun _ => ⟨without, ?_⟩, idle ?_⟩
  · rw [encard_intermediateFiles there, counted]
  · intro name listed
    obtain ⟨-, ends, e, found, file⟩ := mem_intermediates.mp listed
    rw [without.cwd] at found
    by_cases gone : dir.route t.workingDirectory ++ [name] ∈ t.intermediateFiles dir
    · rw [without.none _ gone] at found
      cases found
    · rw [without.kept _ gone] at found
      exact gone ((mem_intermediateFiles there).mpr
        (mem_intermediates.mpr ⟨there, ends, e, found, file⟩))

/-- Two files to remove, among a file that is named by an ending alone, a directory that is named as
an object, an object in it and a module. -/
def cluttered : FileTree :=
  .ofEntries ["work"] [(["work"], .directory), (["work", "b"], .directory),
    (["work", "b", "POUS.x.o"], .file .empty false), (["work", "b", "p.elf"], .file .empty false),
    (["work", "b", ".o"], .file .empty false), (["work", "b", "old.o"], .directory),
    (["work", "b", "old.o", "POUS.o"], .file .empty false),
    (["work", "b", "p.bin"], .file .empty false)]

theorem cluttered_cleared :
    let u := (cluttered.removeIntermediates ⟨"b"⟩).1
    cluttered.Separated ∧ (cluttered.removeIntermediates ⟨"b"⟩).2 = 2 ∧
    Without (cluttered.intermediateFiles ⟨"b"⟩) cluttered u ∧
    (cluttered.intermediateFiles ⟨"b"⟩).encard = 2 ∧ u.removeIntermediates ⟨"b"⟩ = (u, 0) := by
  intro u
  have separated : cluttered.Separated := ⟨by decide, by decide⟩
  have there : cluttered.isDirectory ⟨"b"⟩ = true := by decide
  have works : ∀ name ∈ cluttered.intermediates ⟨"b"⟩,
      (cluttered.removeFile (Path.child ⟨"b"⟩ name)).isOk = true := by decide +kernel
  have removable : ∀ name,
      Path.route ["work"] ⟨"b"⟩ ++ [name] ∈ cluttered.intermediateFiles ⟨"b"⟩ →
        ∃ u, cluttered.removeFile (Path.child ⟨"b"⟩ name) = .ok u := by
    intro name listed
    have works := works name ((mem_intermediateFiles there).mp listed)
    cases removed : cluttered.removeFile (Path.child ⟨"b"⟩ name) with
    | error cause => rw [removed] at works; cases works
    | ok u => exact ⟨u, rfl⟩
  have count : (cluttered.removeIntermediates ⟨"b"⟩).2 = 2 := by decide +kernel
  obtain ⟨-, cleared, again⟩ := removeIntermediates_exact separated removable
  obtain ⟨without, counted⟩ := cleared there
  rw [count] at counted
  exact ⟨separated, count, without, counted, again⟩

end PlcModule.FileTree
