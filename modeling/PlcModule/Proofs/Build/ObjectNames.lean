import Mathlib.Data.List.Nodup
import Mathlib.Data.List.Perm.Subperm
import PlcModule.Proofs.Build.Clearance
import PlcModule.Proofs.Path.Components

/-! Names of objects. A source gets the first of its candidates that no source before it has got.
There is always one, since candidates differ from one another and no more of them are taken than
sources came before; so objects never clash, and all of them go when the build clears up. -/
namespace PlcModule

namespace ObjectName

variable {used : List String} {stem : String}

theorem candidate_injective (stem : String) : Function.Injective (candidate stem) := by
  intro m n same
  have digits {k : Nat} : (toString k).toList = Nat.toDigits 10 k := by
    simp [Nat.toString_eq_repr, Nat.repr]
  have apart (k : Nat) (numbered : k ≠ 0) : candidate stem 0 ≠ candidate stem k := by
    intro eq
    have one : "_".length = 1 := rfl
    have length := congrArg String.length eq
    simp only [candidate, numbered, if_true, if_false, String.length_append] at length
    omega
  rcases eq_or_ne m 0 with rfl | first <;> rcases eq_or_ne n 0 with rfl | second
  · rfl
  · exact absurd same (apart n second)
  · exact absurd same.symm (apart m first)
  · have text := congrArg String.toList same
    have number : Nat.toDigits 10 m = Nat.toDigits 10 n := by
      simpa [candidate, first, second, digits] using text
    have value := congrArg (fun ds => Nat.ofDigitChars 10 ds 0) number
    simpa using value

/-- Of one more candidates than there are names in use, one is free. -/
theorem exists_free (used : List String) (stem : String) :
    ∃ n ≤ used.length, candidate stem n ∉ used := by
  by_contra taken
  have all : (List.range (used.length + 1)).map (candidate stem) ⊆ used := by
    intro name at_
    obtain ⟨n, low, rfl⟩ := List.mem_map.mp at_
    by_contra free
    exact taken ⟨n, Nat.le_of_lt_succ (List.mem_range.mp low), free⟩
  have distinct : ((List.range (used.length + 1)).map (candidate stem)).Nodup :=
    List.nodup_range.map (candidate_injective stem)
  have many := (distinct.subperm all).length_le
  rw [List.length_map, List.length_range] at many
  omega

/-- A candidate that is not in use, where those before it are. -/
structure IsFirstFree (used : List String) (stem : String) (n : Nat) : Prop where
  free : candidate stem n ∉ used
  taken : ∀ m < n, candidate stem m ∈ used

theorem choose_firstFree (used : List String) (stem : String) :
    ∃ n ≤ used.length, choose used stem = candidate stem n ∧ IsFirstFree used stem n := by
  obtain ⟨k, low, free⟩ := exists_free used stem
  rw [choose, List.find?_map]
  cases found : (List.range (used.length + 1)).find?
      ((fun name => !used.contains name) ∘ candidate stem) with
  | none =>
    have taken := List.find?_eq_none.mp found k (List.mem_range.mpr (by omega))
    simp [free] at taken
  | some n =>
    obtain ⟨here, range, before⟩ := List.find?_range_eq_some.mp found
    refine ⟨n, Nat.le_of_lt_succ (List.mem_range.mp range), rfl, by simpa using here, ?_⟩
    intro m low
    simpa using before m low

/-- The search as a loop with no bound: how it ends when it starts from a candidate. -/
inductive SearchEnds (used : List String) (stem : String) : Nat → String → Prop
  | found {n : Nat} (free : candidate stem n ∉ used) : SearchEnds used stem n (candidate stem n)
  | next {n : Nat} {name : String} (taken : candidate stem n ∈ used)
    (rest : SearchEnds used stem (n + 1) name) : SearchEnds used stem n name

theorem SearchEnds.unique {n : Nat} {name name' : String} (ends : SearchEnds used stem n name)
    (ends' : SearchEnds used stem n name') : name = name' := by
  induction ends with
  | found free =>
    cases ends' with
    | found => rfl
    | next taken => exact absurd taken free
  | next taken _ ih =>
    cases ends' with
    | found free => exact absurd taken free
    | next _ rest => exact ih rest

theorem IsFirstFree.searchEnds {n m : Nat} (first : IsFirstFree used stem n) (low : m ≤ n) :
    SearchEnds used stem m (candidate stem n) := by
  induction low using Nat.decreasingInduction with
  | self => exact .found first.free
  | of_succ m low ih => exact .next (first.taken m low) ih

/-- The search ends, and it ends at the first candidate that is free. -/
theorem IsFirstFree.searchEnds_iff {n : Nat} {name : String} (first : IsFirstFree used stem n) :
    SearchEnds used stem 0 name ↔ name = candidate stem n := by
  have ends := first.searchEnds (Nat.zero_le n)
  exact ⟨fun ends' => ends'.unique ends, fun same => same ▸ ends⟩

/-- A source's name is the first that is free of those in use and of those given before it. -/
theorem assign_firstFree (used : List String) {sources : List Path} {source : Path} {i : Nat}
    (at_ : sources[i]? = some source) :
    ∃ n ≤ used.length + i, (assign used sources)[i]? = some (candidate (stemOf source) n) ∧
      IsFirstFree ((assign used sources).take i ++ used) (stemOf source) n := by
  induction sources generalizing used i with
  | nil => cases at_
  | cons first rest ih =>
    cases i with
    | zero =>
      obtain rfl : first = source := by simpa using at_
      obtain ⟨n, low, chosen, free⟩ := choose_firstFree used (stemOf first)
      exact ⟨n, by omega, by simp [assign, chosen], by simpa using free⟩
    | succ i =>
      obtain ⟨n, low, name, free, taken⟩ := ih (choose used (stemOf first) :: used)
        (i := i) (by simpa using at_)
      refine ⟨n, by simpa [Nat.add_assoc, Nat.add_comm 1] using low, by simpa [assign] using name, ?_, ?_⟩
      · simpa [assign, or_left_comm] using free
      · intro m before
        simpa [assign, or_left_comm] using taken m before

/-- What is given is not free any more, so no name is given twice. -/
theorem assign_nodup (sources : List Path) : (assign [] sources).Nodup := by
  refine List.pairwise_iff_getElem.mpr fun i j hi hj before same => ?_
  have bound : j < sources.length := length_assign [] sources ▸ hj
  obtain ⟨n, -, name, first⟩ := assign_firstFree [] (List.getElem?_eq_getElem bound)
  have own := Option.some.inj ((List.getElem?_eq_getElem hj).symm.trans name)
  refine first.free ?_
  rw [List.append_nil, ← own, ← same]
  exact List.mem_take_iff_getElem.mpr ⟨i, Nat.lt_min.mpr ⟨before, hi⟩, rfl⟩

/-- The objects of a build (`BuildPlan.objects`), for any sources in any order. Each search ends, at
the first candidate that no search before it gave. So objects are apart from one another, they lie
right in the build directory, and clearing up a directory takes what has their names away. -/
theorem assign_apart (dir : Path) (sources : List Path) :
    let names := assign [] sources
    names.length = sources.length ∧
    (∀ i source, sources[i]? = some source → ∃ n ≤ i,
      names[i]? = some (candidate (stemOf source) n) ∧
      (∀ name, SearchEnds (names.take i) (stemOf source) 0 name ↔
        name = candidate (stemOf source) n) ∧
      candidate (stemOf source) n ∉ names.take i ∧
      ∀ m < n, candidate (stemOf source) m ∈ names.take i) ∧
    (names.map dir.child).Pairwise (fun p q => p.components ≠ q.components) ∧
    ∀ name ∈ names,
      (dir.child name).components = dir.components ++ [.name name] ∧
      FileTree.isIntermediateName name = true ∧
      ∀ (tree : FileTree) (d : Path), tree.isDirectory d = true →
        (tree.removeIntermediates d).1.isFile (d.child name) = false := by
  intro names
  have named (name : String) (member : name ∈ names) :
      IsPlainName name ∧ FileTree.isIntermediateName name = true := by
    obtain ⟨source, n, rfl⟩ := assign_candidate member
    exact ⟨candidate_plain (stemOf_slash source) n, candidate_intermediate (stemOf_ne source) n⟩
  refine ⟨length_assign [] sources, fun i source at_ => ?_, ?_, fun name member => ?_⟩
  · obtain ⟨n, low, name, first⟩ := assign_firstFree [] at_
    rw [List.append_nil] at first
    exact ⟨n, by simpa using low, name, fun _ => first.searchEnds_iff, first.free, first.taken⟩
  · have distinct : names.Pairwise (· ≠ ·) := assign_nodup sources
    refine List.pairwise_map.mpr (distinct.imp_of_mem fun {m n} first second other same => other ?_)
    rw [Path.components_child (named m first).1, Path.components_child (named n second).1] at same
    simpa using same
  · obtain ⟨plain, ends⟩ := named name member
    exact ⟨Path.components_child plain dir, ends, fun tree d there =>
      FileTree.removeIntermediates_clears there plain ends⟩

/-- A stem that looks numbered, between two sources of the stem that it was numbered from. -/
example : assign [] [⟨"a/POUS.c"⟩, ⟨"POUS_1.c"⟩, ⟨"b/POUS.c"⟩, ⟨"POUS.c"⟩] =
    ["POUS.o", "POUS_1.o", "POUS_2.o", "POUS_3.o"] := by
  decide

end ObjectName
end PlcModule
