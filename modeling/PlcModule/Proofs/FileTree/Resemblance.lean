import PlcModule.Proofs.FileTree.Entered
import PlcModule.Proofs.FileTree.Reading

/-! Trees that differ in left-over files alone. They have the same directories, and at the routes
that are loose one may have a file with any bytes where the other has nothing. An operation goes
the same way in both as long as it looks at no loose route, and what it writes is loose no more. -/
namespace PlcModule

/-- The entry without its executable bit. -/
def Entry.plain : Entry → Entry
  | file content _ => file content false
  | e => e

namespace FileTree

/-- What stands at a place in two trees, up to the executable bit. -/
def Alike (e e' : Option Entry) : Prop :=
  e.map Entry.plain = e'.map Entry.plain

/-- A file or nothing. -/
def Free (e : Option Entry) : Prop :=
  ∀ x, e = some x → x.isFile = true

namespace Alike

variable {e e' : Option Entry}

theorem refl (e : Option Entry) : Alike e e :=
  rfl

theorem symm (h : Alike e e') : Alike e' e :=
  Eq.symm h

theorem none_iff (h : Alike e e') : e = none ↔ e' = none := by
  cases e <;> cases e' <;> simp_all [Alike]

theorem directory_iff (h : Alike e e') : e = some .directory ↔ e' = some .directory := by
  rcases e with _ | _ | _ | _ <;> rcases e' with _ | _ | _ | _ <;> simp_all [Alike, Entry.plain]

theorem device_iff (h : Alike e e') : e = some .device ↔ e' = some .device := by
  rcases e with _ | _ | _ | _ <;> rcases e' with _ | _ | _ | _ <;> simp_all [Alike, Entry.plain]

theorem file {content : ByteArray} {x : Bool} (h : Alike e e') (there : e = some (.file content x)) :
    ∃ y, e' = some (.file content y) := by
  subst there
  rcases e' with _ | _ | ⟨content', y⟩ | _
  · cases h
  · cases h
  · have same : Entry.file content false = Entry.file content' false := Option.some.inj h
    cases same
    exact ⟨y, rfl⟩
  · cases h

end Alike

theorem alike_file (content : ByteArray) (x y : Bool) :
    Alike (some (.file content x)) (some (.file content y)) :=
  rfl

theorem free_none : Free none := by
  intro x there
  cases there

/-- Two trees in one working directory have the same but for a builder's own files. Those that are
loose may differ as files do that were left over; all others are alike. -/
structure Resembles (cwd : Route) (own loose : Set Route) (t u : FileTree) : Prop where
  left : t.workingDirectory = cwd
  right : u.workingDirectory = cwd
  same : ∀ l ∉ own, u.find? l = t.find? l
  alike : ∀ l ∉ loose, Alike (t.find? l) (u.find? l)
  kind : ∀ l, Alike (t.find? l) (u.find? l) ∨ Free (t.find? l) ∧ Free (u.find? l)

namespace Resembles

variable {cwd : Route} {own loose loose' : Set Route} {t u t' u' : FileTree} {l k : Route}
  {p q : Path}

theorem symm (h : Resembles cwd own loose t u) : Resembles cwd own loose u t where
  left := h.right
  right := h.left
  same l off := (h.same l off).symm
  alike l off := (h.alike l off).symm
  kind l := (h.kind l).imp Alike.symm And.symm

theorem mono (h : Resembles cwd own loose t u) (wider : loose ⊆ loose') :
    Resembles cwd own loose' t u :=
  { h with alike := fun l off => h.alike l fun at_ => off (wider at_) }

theorem directory (h : Resembles cwd own loose t u) (l : Route) :
    t.find? l = some .directory ↔ u.find? l = some .directory := by
  rcases h.kind l with alike | ⟨free, free'⟩
  · exact alike.directory_iff
  · constructor
    · intro there
      cases free _ there
    · intro there
      cases free' _ there

theorem device (h : Resembles cwd own loose t u) (l : Route) :
    t.find? l = some .device ↔ u.find? l = some .device := by
  rcases h.kind l with alike | ⟨free, free'⟩
  · exact alike.device_iff
  · constructor
    · intro there
      cases free _ there
    · intro there
      cases free' _ there

theorem sameDirectories (h : Resembles cwd own loose t u) : SameDirectories t u :=
  ⟨h.right.trans h.left.symm, fun l => (h.directory l).symm⟩

/-- A change at one of the builder's own routes keeps the resemblance if what stands there then
is alike, or loose. -/
theorem change (h : Resembles cwd own loose t u) (on : l ∈ own) (left : Change {l} ∅ t t')
    (right : Change {l} ∅ u u')
    (kind : Alike (t'.find? l) (u'.find? l) ∨
      l ∈ loose ∧ Free (t'.find? l) ∧ Free (u'.find? l)) : Resembles cwd own loose t' u' := by
  have off {k : Route} (other : k ≠ l) : t'.find? k = t.find? k ∧ u'.find? k = u.find? k :=
    ⟨left.find_eq other, right.find_eq other⟩
  refine ⟨left.cwd.trans h.left, right.cwd.trans h.right, fun k out => ?_, fun k out => ?_,
    fun k => ?_⟩
  · obtain ⟨eq, eq'⟩ := off (ne_of_mem_of_not_mem on out).symm
    rw [eq, eq']
    exact h.same k out
  · by_cases here : k = l
    · subst here
      rcases kind with alike | ⟨impossible, -⟩
      · exact alike
      · exact absurd impossible out
    · obtain ⟨eq, eq'⟩ := off here
      rw [eq, eq']
      exact h.alike k out
  · by_cases here : k = l
    · subst here
      exact kind.imp id And.right
    · obtain ⟨eq, eq'⟩ := off here
      rw [eq, eq']
      exact h.kind k

/-- What was made alike is loose no more. -/
theorem settle (h : Resembles cwd own loose t u) (alike : Alike (t.find? l) (u.find? l)) :
    Resembles cwd own (loose \ {l}) t u := by
  refine { h with alike := fun k out => ?_ }
  by_cases here : k = l
  · exact here ▸ alike
  · exact h.alike k fun at_ => out ⟨at_, here⟩

/-- The names of a path lead through no loose route. -/
def Clear (cwd : Route) (loose : Set Route) (p : Path) : Prop :=
  ∀ m ∈ enteredFrom (p.start cwd) (pathNames p).dropLast, m ∉ loose

theorem enter (h : Resembles cwd own loose t u) {name : String}
    (clear : name = "." ∨ name = ".." ∨ l ++ [name] ∉ loose) : u.enter l name = t.enter l name := by
  by_cases here : name = "."
  · simp [FileTree.enter, here]
  by_cases up : name = ".."
  · simp [FileTree.enter, up]
  have off : l ++ [name] ∉ loose := (clear.resolve_left here).resolve_left up
  have alike := h.alike _ off
  simp only [FileTree.enter, here, up, if_false]
  generalize t.find? (l ++ [name]) = e at alike
  generalize u.find? (l ++ [name]) = e' at alike
  rcases e with _ | _ | _ | _ <;> rcases e' with _ | _ | _ | _ <;> first | rfl | cases alike

theorem walk (h : Resembles cwd own loose t u) {names : List String}
    (clear : ∀ m ∈ enteredFrom l names, m ∉ loose) : u.walk l names = t.walk l names := by
  induction names generalizing l with
  | nil => rfl
  | cons name names ih =>
    have first : u.enter l name = t.enter l name := by
      refine h.enter ?_
      by_cases idle : name = "." ∨ name = ".."
      · rcases idle with here | up
        · exact .inl here
        · exact .inr (.inl up)
      · refine .inr (.inr (clear _ ?_))
        simp [enteredFrom, idle]
    rw [FileTree.walk, FileTree.walk, first]
    cases entered : t.enter l name with
    | error e => rfl
    | ok m =>
      refine ih fun k at_ => clear k ?_
      have onward := enter_eq entered
      by_cases idle : name = "." ∨ name = ".."
      · simpa only [enteredFrom, if_pos idle, ← onward] using at_
      · obtain ⟨here, up⟩ := not_or.mp idle
        have down : m = l ++ [name] := by simp [onward, PlcModule.onward, here, up]
        simp only [enteredFrom, if_neg idle, ← down]
        exact List.mem_cons_of_mem _ at_

/-- A clear path is located at the same place, or not, for the same reason. -/
theorem locate (h : Resembles cwd own loose t u) (clear : Clear cwd loose p) :
    u.locate p = t.locate p := by
  have walked := h.walk clear
  simp only [FileTree.locate, h.left, h.right]
  rw [Path.start] at walked
  rw [walked]

/-- A path located alike that leads to no loose route finds the same, up to the executable bit. -/
theorem status (h : Resembles cwd own loose t u) (located : u.locate p = t.locate p)
    (settled : p.route cwd ∉ loose) :
    (∃ cause, t.status p = .error cause ∧ u.status p = .error cause) ∨
    ∃ e e', t.status p = .ok (p.route cwd, e) ∧ u.status p = .ok (p.route cwd, e') ∧
      e.plain = e'.plain := by
  simp only [FileTree.status, located]
  cases found : t.locate p with
  | error cause => exact .inl ⟨cause, rfl, rfl⟩
  | ok place =>
    have route := locate_route found
    rw [h.left] at route
    have alike := h.alike _ settled
    rw [← route] at alike ⊢
    simp only [bind, Except.bind]
    cases here : t.find? place.route with
    | none =>
      rw [here] at alike
      rw [alike.none_iff.mp rfl]
      exact .inl ⟨_, rfl, rfl⟩
    | some e =>
      cases there : u.find? place.route with
      | none =>
        rw [here, there] at alike
        cases alike
      | some e' =>
        rw [here, there] at alike
        have plain : e.plain = e'.plain := Option.some.inj alike
        have kind : e.isDirectory = e'.isDirectory := by
          cases e <;> cases e' <;> first | rfl | cases plain
        simp only [kind]
        cases place.slash && !e'.isDirectory with
        | true => exact .inl ⟨_, rfl, rfl⟩
        | false => exact .inr ⟨e, e', rfl, rfl, plain⟩

theorem readBytes (h : Resembles cwd own loose t u) (located : u.locate p = t.locate p)
    (settled : p.route cwd ∉ loose) : u.readBytes p = t.readBytes p := by
  rcases h.status located settled with ⟨cause, failed, failed'⟩ | ⟨e, e', found, found', plain⟩
  · simp [FileTree.readBytes, failed, failed', bind, Except.bind]
  · simp only [FileTree.readBytes, found, found', bind, Except.bind]
    cases e <;> cases e' <;> cases plain <;> rfl

/-- A path is located at the same place, or in neither tree. -/
theorem locate_cases (h : Resembles cwd own loose t u) (p : Path) :
    (∃ cause cause', t.locate p = .error cause ∧ u.locate p = .error cause') ∨
      ∃ place, t.locate p = .ok place ∧ u.locate p = .ok place := by
  cases found : t.locate p with
  | ok place => exact .inr ⟨place, rfl, h.sameDirectories.locate found⟩
  | error cause =>
    cases found' : u.locate p with
    | error cause' => exact .inl ⟨cause, cause', rfl, rfl⟩
    | ok place =>
      rw [h.sameDirectories.symm.locate found'] at found
      cases found

/-- What is read of a route that is not loose is the same, whatever leads to it. -/
theorem read (h : Resembles cwd own loose t u) (settled : p.route cwd ∉ loose) :
    (u.readBytes p).toOption = (t.readBytes p).toOption := by
  rcases h.locate_cases p with ⟨cause, cause', lost, lost'⟩ | ⟨place, found, found'⟩
  · simp [FileTree.readBytes, FileTree.status, lost, lost', bind, Except.bind, Except.toOption]
  · rw [h.readBytes (found'.trans found.symm) settled]

end Resembles
/-- Two trees in one working directory have the same but for files at a builder's own routes, and
but for what stands on the way to its directory. -/
structure DifferInFiles (cwd : Route) (own : Set Route) (dir : Path) (t u : FileTree) : Prop where
  left : t.workingDirectory = cwd
  right : u.workingDirectory = cwd
  same : ∀ l ∉ own, l ∉ dir.entered cwd → u.find? l = t.find? l
  kind : ∀ l, l ∉ dir.entered cwd →
    Alike (t.find? l) (u.find? l) ∨ Free (t.find? l) ∧ Free (u.find? l)

namespace DifferInFiles

variable {cwd : Route} {own : Set Route} {dir : Path} {t u : FileTree} {l : Route}

theorem refl (there : t.workingDirectory = cwd) : DifferInFiles cwd own dir t t :=
  ⟨there, there, fun _ _ _ => rfl, fun _ _ => .inl (.refl _)⟩

/-- A directory on the way, or a file that is left behind where there was none or another. -/
theorem put {e : Entry} (h : DifferInFiles cwd own dir t u) (below : l ≠ [])
    (at_ : l ∈ dir.entered cwd ∨ l ∈ own ∧ Free (t.find? l) ∧ e.isFile = true) :
    DifferInFiles cwd own dir t (u.put l e) := by
  refine ⟨h.left, h.right, fun k off way => ?_, fun k way => ?_⟩
  · have other : k ≠ l := by
      rintro rfl
      exact at_.elim way fun on => off on.1
    rw [find?_put_of_ne u l k e other]
    exact h.same k off way
  · by_cases here : k = l
    · subst here
      obtain ⟨-, free, file⟩ := at_.resolve_left way
      refine .inr ⟨free, fun e' there => ?_⟩
      rw [find?_put_self u k e below] at there
      cases there
      exact file
    · rw [find?_put_of_ne u l k e here]
      exact h.kind k way

end DifferInFiles

/-- Once the directory is there in both, no route on the way to it is loose. -/
theorem DifferInFiles.made {cwd : Route} {own : Set Route} {dir : Path} {t u : FileTree}
    (h : DifferInFiles cwd own dir t u) (left : (t.makeDirectories dir).2 = .ok ())
    (right : (u.makeDirectories dir).2 = .ok ()) :
    Resembles cwd own (own \ {l | l ∈ dir.entered cwd}) (t.makeDirectories dir).1
      (u.makeDirectories dir).1 := by
  have changed := makeDirectories_entered t dir
  have changed' := makeDirectories_entered u dir
  rw [h.left] at changed
  rw [h.right] at changed'
  have stands := (makeDirectories_stands left).1
  have stands' := (makeDirectories_stands right).1
  rw [changed.cwd, h.left] at stands
  rw [changed'.cwd, h.right] at stands'
  have kept {v w : FileTree} (change : Change ∅ {l | l ∈ dir.entered cwd} v w) {l : Route}
      (off : l ∉ dir.entered cwd) : w.find? l = v.find? l :=
    (change.find l (Set.notMem_empty l)).resolve_right fun made => off made.1
  refine ⟨changed.cwd.trans h.left, changed'.cwd.trans h.right, fun l off => ?_, fun l off => ?_,
    fun l => ?_⟩
  all_goals by_cases way : l ∈ dir.entered cwd
  · rw [stands l way, stands' l way]
  · rw [kept changed way, kept changed' way]
    exact h.same l off way
  · rw [stands l way, stands' l way]
    exact .refl _
  · have other : l ∉ own := fun on => off ⟨on, way⟩
    rw [kept changed way, kept changed' way, h.same l other way]
    exact .refl _
  · rw [stands l way, stands' l way]
    exact .inl (.refl _)
  · rw [kept changed way, kept changed' way]
    exact h.kind l way

end FileTree
end PlcModule
