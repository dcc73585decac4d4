import PlcModule.Proofs.FileTree.Removal
import PlcModule.Proofs.FileTree.Resemblance

/-! One operation on two trees that differ in left-over files alone. It fails in both for one cause
or goes well in both; then the trees resemble each other still, and what was written or removed
is left over no more. -/
namespace PlcModule.FileTree

/-- Two outcomes of one operation: the same fault, or trees that are related. -/
inductive Outcomes (R : FileTree → FileTree → Prop) :
    Except Fault FileTree → Except Fault FileTree → Prop where
  | failed (cause : Fault) : Outcomes R (.error cause) (.error cause)
  | went {t u : FileTree} (related : R t u) : Outcomes R (.ok t) (.ok u)

theorem Outcomes.mono {R R' : FileTree → FileTree → Prop} {x y : Except Fault FileTree}
    (h : Outcomes R x y) (weaker : ∀ t u, R t u → R' t u) : Outcomes R' x y := by
  cases h with
  | failed cause => exact .failed cause
  | went related => exact .went (weaker _ _ related)

namespace Resembles

variable {cwd : Route} {own loose : Set Route} {t u t' u' : FileTree} {l : Route} {p q : Path}

theorem put {e e' : Entry} (h : Resembles cwd own loose t u) (on : l ∈ own) (below : l ≠ [])
    (alike : Alike (some e) (some e')) : Resembles cwd own (loose \ {l}) (t.put l e) (u.put l e') := by
  have here : Alike ((t.put l e).find? l) ((u.put l e').find? l) := by
    rw [find?_put_self t l e below, find?_put_self u l e' below]
    exact alike
  exact (h.change on (put_change t l e) (put_change u l e') (.inl here)).settle here

theorem erase (h : Resembles cwd own loose t u) (on : l ∈ own) (below : l ≠ []) :
    Resembles cwd own (loose \ {l}) (t.erase l) (u.erase l) := by
  have here : Alike ((t.erase l).find? l) ((u.erase l).find? l) := by
    rw [find?_erase_self t l below, find?_erase_self u l below]
    exact .refl none
  exact (h.change on (erase_change t l) (erase_change u l) (.inl here)).settle here

theorem target (h : Resembles cwd own loose t u) (located : u.locate p = t.locate p) :
    (∃ cause, t.target p = .error cause ∧ u.target p = .error cause) ∨
    p.route cwd ≠ [] ∧
      ∃ x y, t.target p = .ok (p.route cwd, x) ∧ u.target p = .ok (p.route cwd, y) := by
  cases found : t.locate p with
  | error cause =>
    simp only [FileTree.target, located, found]
    exact .inl ⟨cause, rfl, rfl⟩
  | ok place =>
    have found' := located.trans found
    by_cases closed : (place.name.isNone || place.slash) = true
    · simp only [FileTree.target, found, found', bind, Except.bind, closed, if_true]
      exact .inl ⟨_, rfl, rfl⟩
    obtain ⟨named, plain⟩ := Bool.or_eq_false_iff.mp (Bool.eq_false_iff.mpr closed)
    by_cases directory : t.find? place.route = some .directory
    · simp only [FileTree.target, found, found', bind, Except.bind, closed, if_false,
        Bool.false_eq_true, directory, (h.directory _).mp directory]
      exact .inl ⟨_, rfl, rfl⟩
    · have below := Place.route_ne_nil named
      have route := locate_route found
      rw [h.left] at route
      obtain ⟨x, aimed⟩ := target_ok found named plain directory
      obtain ⟨y, aimed'⟩ := target_ok found' named plain (mt (h.directory _).mpr directory)
      rw [← route]
      exact .inr ⟨below, x, y, aimed, aimed'⟩

/-- Any path can be written to in both trees or in neither. -/
theorem writes (h : Resembles cwd own loose t u) (p : Path) (content : ByteArray) :
    (∃ cause cause', t.writeBytes p content = .error cause ∧ u.writeBytes p content = .error cause' ∧
      (u.locate p = t.locate p → cause' = cause)) ∨
    ∃ t' u', t.writeBytes p content = .ok t' ∧ u.writeBytes p content = .ok u' ∧
      Alike (t'.find? (p.route cwd)) (u'.find? (p.route cwd)) := by
  rcases h.locate_cases p with ⟨cause, cause', lost, lost'⟩ | ⟨place, found, found'⟩
  · refine .inl ⟨cause, cause', ?_, ?_, fun same => ?_⟩
    · simp only [FileTree.writeBytes, FileTree.target, lost, bind, Except.bind]
    · simp only [FileTree.writeBytes, FileTree.target, lost', bind, Except.bind]
    · rw [lost, lost'] at same
      cases same
      rfl
  rcases h.target (found'.trans found.symm) with
    ⟨cause, closed, closed'⟩ | ⟨below, x, y, aimed, aimed'⟩
  · refine .inl ⟨cause, cause, ?_, ?_, fun _ => rfl⟩
    · simp only [FileTree.writeBytes, closed, bind, Except.bind]
    · simp only [FileTree.writeBytes, closed', bind, Except.bind]
  · simp only [FileTree.writeBytes, aimed, aimed', bind, Except.bind]
    by_cases device : t.find? (p.route cwd) = some .device
    · have device' := (h.device _).mp device
      simp only [device, device']
      refine .inr ⟨t, u, rfl, rfl, ?_⟩
      rw [device, device']
      exact .refl _
    · have device' := mt (h.device _).mpr device
      split
      · contradiction
      refine .inr ⟨_, _, rfl, rfl, ?_⟩
      rw [find?_put_self t _ _ below, find?_put_self u _ _ below]
      exact alike_file content x y

theorem writeBytes (h : Resembles cwd own loose t u) (located : u.locate p = t.locate p)
    (on : p.route cwd ∈ own) (content : ByteArray) :
    Outcomes (Resembles cwd own (loose \ {p.route cwd})) (t.writeBytes p content)
      (u.writeBytes p content) := by
  rcases h.writes p content with
    ⟨cause, cause', failed, failed', same⟩ | ⟨t', u', went, went', alike⟩
  · rw [failed, failed', same located]
    exact .failed cause
  · have left := writeBytes_change went
    have right := writeBytes_change went'
    rw [h.left] at left
    rw [h.right] at right
    rw [went, went']
    exact .went ((h.change on left right (.inl alike)).settle alike)

theorem copyFile (h : Resembles cwd own loose t u) (source : u.locate p = t.locate p)
    (settled : p.route cwd ∉ loose) (goal : u.locate q = t.locate q) (on : q.route cwd ∈ own)
    (apart : p.route cwd ≠ q.route cwd) :
    Outcomes (Resembles cwd own (loose \ {q.route cwd})) (t.copyFile p q) (u.copyFile p q) := by
  rcases h.status source settled with ⟨cause, failed, failed'⟩ | ⟨e, e', found, found', plain⟩
  · simp only [FileTree.copyFile, failed, failed', bind, Except.bind]
    exact .failed cause
  have there := (status_route found).2
  have there' := (status_route found').2
  simp only [FileTree.copyFile, found, found', bind, Except.bind]
  rcases e with _ | ⟨content, x⟩ | _ <;> rcases e' with _ | ⟨content', y⟩ | _ <;> cases plain
  · exact .failed _
  · rcases h.target goal with ⟨cause, closed, closed'⟩ | ⟨below, z, z', aimed, aimed'⟩
    · simp only [closed, closed']
      exact .failed cause
    simp only [aimed, aimed']
    by_cases device : t.find? (q.route cwd) = some .device
    · have device' := (h.device _).mp device
      simp only [device, device']
      refine .went (h.settle ?_)
      rw [device, device']
      exact .refl _
    · have device' := mt (h.device _).mpr device
      split
      · contradiction
      simp only [find?_put_of_ne _ _ _ _ apart, there, there']
      have emptied := h.put on below (alike_file .empty x y)
      have filled := emptied.put on below (alike_file content x y)
      exact .went (filled.mono fun _ off => off.1)
  · exact .failed _

/-- What is removed from both trees is left over no more. -/
theorem without {gone : Set Route} (h : Resembles cwd own loose t u) (left : Without gone t t')
    (right : Without gone u u') : Resembles cwd own (loose \ gone) t' u' := by
  refine ⟨left.cwd.trans h.left, right.cwd.trans h.right, fun l off => ?_, fun l off => ?_,
    fun l => ?_⟩
  all_goals by_cases at_ : l ∈ gone
  · rw [left.none l at_, right.none l at_]
  · rw [left.kept l at_, right.kept l at_]
    exact h.same l off
  · rw [left.none l at_, right.none l at_]
    exact .refl none
  · rw [left.kept l at_, right.kept l at_]
    exact h.alike l fun loose => off ⟨loose, at_⟩
  · rw [left.none l at_, right.none l at_]
    exact .inl (.refl none)
  · rw [left.kept l at_, right.kept l at_]
    exact h.kind l

/-- Whatever path is removed, if it can be. -/
theorem drop (h : Resembles cwd own loose t u) (p : Path) :
    Resembles cwd own loose ((t.removeFile p).toOption.getD t)
      ((u.removeFile p).toOption.getD u) := by
  have right := removeFile_without u p
  rw [← h.sameDirectories.taken] at right
  exact (h.without (removeFile_without t p) right).mono fun _ at_ => at_.1

/-- A file that is moved within a builder's own routes. -/
theorem rename {content : ByteArray} {x : Bool} (h : Resembles cwd own loose t u)
    (source : u.locate p = t.locate p) (goal : u.locate q = t.locate q)
    (there : t.find? (p.route cwd) = some (.file content x)) (settled : p.route cwd ∉ loose)
    (own₁ : p.route cwd ∈ own) (own₂ : q.route cwd ∈ own) (apart : p.route cwd ≠ q.route cwd) :
    Outcomes (Resembles cwd own (loose \ {q.route cwd})) (t.rename p q) (u.rename p q) := by
  obtain ⟨y, there'⟩ := (h.alike _ settled).file there
  simp only [FileTree.rename, source, goal]
  cases found : t.locate p with
  | error cause => exact .failed cause
  | ok place =>
    cases aimed : t.locate q with
    | error cause => exact .failed cause
    | ok aim =>
      have route := locate_route found
      have route' := locate_route aimed
      rw [h.left] at route route'
      rw [← route] at there there' own₁ apart
      rw [← route'] at own₂ apart ⊢
      simp only [bind, Except.bind]
      by_cases unnamed : (place.name.isNone || aim.name.isNone) = true
      · simp only [unnamed, if_true]
        exact .failed _
      have below : place.route ≠ [] ∧ aim.route ≠ [] := by
        simp only [Bool.or_eq_true, not_or] at unnamed
        exact ⟨Place.route_ne_nil (Bool.eq_false_iff.mpr unnamed.1),
          Place.route_ne_nil (Bool.eq_false_iff.mpr unnamed.2)⟩
      have directory {v : FileTree} : (v.find? aim.route).any Entry.isDirectory = true ↔
          v.find? aim.route = some .directory := by
        rcases v.find? aim.route with _ | _ | _ | _ <;> simp [Entry.isDirectory]
      have blocks : (u.find? aim.route).any Entry.isDirectory =
          (t.find? aim.route).any Entry.isDirectory :=
        Bool.eq_iff_iff.mpr (directory.trans ((h.directory _).symm.trans directory.symm))
      simp only [unnamed, there, there', apart, if_false, Bool.false_eq_true, blocks]
      by_cases slash : (place.slash || aim.slash) = true
      · simp only [slash, if_true]
        exact .failed _
      simp only [slash, Bool.false_eq_true, if_false]
      by_cases blocked : (t.find? aim.route).any Entry.isDirectory = true
      · simp only [blocked, if_true]
        exact .failed _
      simp only [blocked, if_false, Bool.false_eq_true]
      have erased := h.erase own₁ below.1
      have moved := erased.put own₂ below.2 (alike_file content x y)
      exact .went (moved.mono fun _ at_ => ⟨at_.1.1, at_.2⟩)

end Resembles

/-- If a path can be located, what is there is alike in two trees. -/
def AgreeAt (p : Path) (t u : FileTree) : Prop :=
  ∀ place, t.locate p = .ok place → Alike (t.find? place.route) (u.find? place.route)

section

variable {t u : FileTree} {p : Path}

theorem AgreeAt.symm (same : SameDirectories t u) (agree : AgreeAt p t u) : AgreeAt p u t :=
  fun place located => (agree place (same.symm.locate located)).symm

/-- A file that two trees agree at is one in both. -/
theorem AgreeAt.isFile (same : SameDirectories t u) (agree : AgreeAt p t u)
    (there : t.isFile p = true) : u.isFile p = true := by
  unfold FileTree.isFile at there
  split at there
  · rename_i content x found
    obtain ⟨rfl, file⟩ := status_route found
    obtain ⟨place, located, plain⟩ := ok_of_bind found
    have alike := agree place located
    rw [← locate_route located] at file
    obtain ⟨y, file'⟩ := alike.file file
    have noSlash : place.slash = false := by
      simp only [file] at plain
      split at plain
      · cases plain
      · simp_all [Entry.isDirectory]
    simp [FileTree.isFile, status, same.locate located, file', noSlash, bind, Except.bind]
  · cases there

theorem AgreeAt.alike (agree : AgreeAt p t u) (there : t.isFile p = true) :
    Alike (t.find? (p.route t.workingDirectory)) (u.find? (p.route t.workingDirectory)) := by
  unfold FileTree.isFile at there
  split at there
  · rename_i found
    obtain ⟨place, located, -⟩ := ok_of_bind found
    rw [← locate_route located]
    exact agree place located
  · cases there

end

namespace Resembles

variable {cwd : Route} {own loose : Set Route} {t u t' u' : FileTree} {p : Path}

/-- A path is made free, where something was and where nothing was. -/
theorem vacate (h : Resembles cwd own loose t u) (located : u.locate p = t.locate p)
    (plain : ∀ place, t.locate p = .ok place → place.slash = false) :
    let vacated (v : FileTree) : Except Fault FileTree :=
      match v.removeFile p with
      | .error (.system .notFound) => .ok v
      | answer => answer
    Outcomes (fun t u => Resembles cwd own loose t u ∧ AgreeAt p t u) (vacated t) (vacated u) := by
  intro vacated
  cases found : t.locate p with
  | error cause =>
    have lost {v : FileTree} (same : v.locate p = .error cause) : v.removeFile p = .error cause := by
      simp only [removeFile, same, bind, Except.bind]
    simp only [vacated, lost found, lost (located.trans found)]
    split
    · refine .went ⟨h, fun place impossible => ?_⟩
      rw [found] at impossible
      cases impossible
    · exact .failed cause
  | ok place =>
    -- Where a file may be, it is there no more; where not, neither tree can be rid of what is there.
    have gone {v : FileTree} (same : v.locate p = .ok place) :
        (place.name.isNone = true ∨ v.find? place.route = some .directory) ∧
            vacated v = .error (.system .isADirectory) ∨
          place.name.isNone = false ∧ v.find? place.route ≠ some .directory ∧
            ∃ w, vacated v = .ok w ∧ Without {place.route} v w ∧ SameDirectories v w := by
      rcases removeFile_located same (plain place found) with ⟨kept, failed⟩ | ⟨named, free, rest⟩
      · exact .inl ⟨kept, by simp only [vacated, failed]⟩
      rcases rest with ⟨none, failed⟩ | removed
      · refine .inr ⟨named, free, v, by simp only [vacated, failed], ⟨rfl, ?_, fun _ _ => rfl⟩,
          .refl v⟩
        rintro l rfl
        exact none
      · exact .inr ⟨named, free, _, by simp only [vacated, removed],
          erase_without v (Place.route_ne_nil named), erase_same free⟩
    rcases gone found with ⟨kept, failed⟩ | ⟨named, free, t', left, removed, same⟩
    · rcases gone (located.trans found) with ⟨-, failed'⟩ | ⟨named, free, -⟩
      · rw [failed, failed']
        exact .failed _
      · rcases kept with unnamed | directory
        · simp [unnamed] at named
        · exact absurd ((h.directory _).mp directory) free
    · rcases gone (located.trans found) with ⟨unnamed | directory, -⟩ | ⟨-, -, u', right, removed', -⟩
      · simp [unnamed] at named
      · exact absurd ((h.directory _).mpr directory) free
      rw [left, right]
      refine .went ⟨(h.without removed removed').mono fun _ at_ => at_.1, fun place' there => ?_⟩
      rw [same.locate found] at there
      cases there
      rw [removed.none _ rfl, removed'.none _ rfl]
      exact .refl none

end Resembles

theorem SameDirectories.isDirectory {t u : FileTree} {p : Path} (same : SameDirectories t u)
    (there : t.isDirectory p = true) : u.isDirectory p = true := by
  unfold FileTree.isDirectory at there
  split at there
  · rename_i found
    obtain ⟨rfl, directory⟩ := status_route found
    obtain ⟨place, located, -⟩ := ok_of_bind found
    have directory' := (same.directory _).mpr directory
    rw [← locate_route located] at directory'
    simp [FileTree.isDirectory, status, same.locate located, directory', bind, Except.bind,
      Entry.isDirectory]
  · cases there

/-- A name in a directory that clearing up gets at. -/
def ClearsUp (t : FileTree) (dir : Path) (name : String) : Prop :=
  t.isDirectory dir = true ∧ isIntermediateName name = true ∧
    t.Reaches (dir.child name) (dir.route t.workingDirectory ++ [name])

theorem SameDirectories.clearsUp {t u : FileTree} {dir : Path} {name : String}
    (same : SameDirectories t u) (clears : u.ClearsUp dir name) : t.ClearsUp dir name := by
  obtain ⟨directory, ends, reaches⟩ := clears
  rw [same.cwd] at reaches
  exact ⟨same.symm.isDirectory directory, ends, same.reaches.mpr reaches⟩

namespace Resembles

variable {cwd : Route} {own loose : Set Route} {t u : FileTree} {dir : Path} {l : Route}

/-- What is removed from one tree only was not there in the other. -/
theorem taken_none (h : Resembles cwd own loose t u)
    (plain : ∀ name, dir.route cwd ++ [name] ∈ own → IsPlainName name)
    (gone : l ∈ t.takenNamed dir (t.intermediates dir))
    (kept : l ∉ u.takenNamed dir (u.intermediates dir)) : u.find? l = none := by
  obtain ⟨name, listed, taken⟩ := gone
  have taken' : l ∈ u.taken (dir.child name) := h.sameDirectories.taken ▸ taken
  have unlisted : name ∉ u.intermediates dir := fun listed' => kept ⟨name, listed', taken'⟩
  obtain ⟨directory, ends, e, there, file⟩ := mem_intermediates.mp listed
  rw [h.left] at there
  have other : ∀ e', u.find? (dir.route cwd ++ [name]) = some e' → e'.isFile = false := by
    intro e' there'
    refine Bool.eq_false_iff.mpr fun file' => unlisted ?_
    rw [mem_intermediates, h.right]
    exact ⟨h.sameDirectories.isDirectory directory, ends, e', there', file'⟩
  have own : dir.route cwd ++ [name] ∈ own := by
    by_contra off
    rw [h.same _ off] at other
    rw [other e there] at file
    cases file
  have none : u.find? (dir.route cwd ++ [name]) = none := by
    rcases h.kind (dir.route cwd ++ [name]) with alike | ⟨-, free⟩
    · rcases e with _ | ⟨content, x⟩ | _
      · cases file
      · obtain ⟨y, there'⟩ := alike.file there
        cases other _ there'
      · cases file
    · cases there' : u.find? (dir.route cwd ++ [name]) with
      | none => rfl
      | some e' =>
        have file' := free e' there'
        rw [other e' there'] at file'
        cases file'
  have here : l = dir.route cwd ++ [name] := by
    rw [taken.1.route_eq, h.left, Path.route_child (plain name own)]
  rw [here]
  exact none

/-- Clearing up leaves nothing loose that it gets at. -/
theorem removeIntermediates (h : Resembles cwd own loose t u)
    (plain : ∀ name, dir.route cwd ++ [name] ∈ own → IsPlainName name) :
    Resembles cwd own (loose \ {l | ∃ name, t.ClearsUp dir name ∧ l = dir.route cwd ++ [name]})
      (t.removeIntermediates dir).1 (u.removeIntermediates dir).1 := by
  have left := removeNamed_without t dir (t.intermediates dir)
  have right := removeNamed_without u dir (u.intermediates dir)
  -- Both trees lose what is taken from either.
  let gone := t.takenNamed dir (t.intermediates dir) ∪ u.takenNamed dir (u.intermediates dir)
  have left' : Without gone t (t.removeIntermediates dir).1 := by
    refine ⟨left.cwd, fun l at_ => ?_, fun l off => left.kept l (not_or.mp off).1⟩
    by_cases here : l ∈ t.takenNamed dir (t.intermediates dir)
    · exact left.none l here
    · rw [FileTree.removeIntermediates, left.kept l here]
      exact h.symm.taken_none plain (at_.resolve_left here) here
  have right' : Without gone u (u.removeIntermediates dir).1 := by
    refine ⟨right.cwd, fun l at_ => ?_, fun l off => right.kept l (not_or.mp off).2⟩
    by_cases here : l ∈ u.takenNamed dir (u.intermediates dir)
    · exact right.none l here
    · rw [FileTree.removeIntermediates, right.kept l here]
      exact h.taken_none plain (at_.resolve_right here) here
  have after := h.without left' right'
  refine { after with alike := fun l off => ?_ }
  by_cases settled : l ∈ loose \ gone
  swap
  · exact after.alike l settled
  obtain ⟨name, ⟨directory, ends, reaches⟩, here⟩ := not_not.mp fun other => off ⟨settled.1, other⟩
  rw [h.left] at reaches
  rw [← here] at reaches
  have absent {v : FileTree} (cwd_ : v.workingDirectory = cwd) (same : SameDirectories t v)
      (free : Free (v.find? l)) (kept : l ∉ v.takenNamed dir (v.intermediates dir)) :
      v.find? l = none := by
    cases there : v.find? l with
    | none => rfl
    | some e =>
      have file := free e there
      refine absurd ⟨name, mem_intermediates.mpr ⟨same.isDirectory directory, ends, e, ?_, file⟩,
        same.reaches.mp reaches, fun directory => ?_⟩ kept
      · rw [cwd_, ← here]
        exact there
      · rw [there] at directory
        cases Option.some.inj directory
        cases file
  obtain ⟨kept, kept'⟩ := not_or.mp settled.2
  rcases h.kind l with alike | ⟨free, free'⟩
  · rw [left'.kept l settled.2, right'.kept l settled.2]
    exact alike
  · rw [left'.kept l settled.2, right'.kept l settled.2, absent h.left (.refl t) free kept,
      absent h.right h.sameDirectories free' kept']
    exact .refl none

end Resembles
end PlcModule.FileTree
