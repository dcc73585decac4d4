import PlcModule.Build.Builder
import PlcModule.Proofs.FileTree.Change

/-! How steps compose. A sequence ends at its first failure or goes on to the rest, so what
every step keeps the sequence keeps, however it ends. -/
namespace PlcModule

variable {σ α β : Type}

namespace Step

instance : LawfulMonad (Step σ) :=
  .mk' (Step σ)
    (fun m => by
      funext s
      change (m >>= fun a => pure (id a)) s = m s
      rw [bind_apply]
      rcases m s with ⟨_ | _, _⟩ <;> rfl)
    (fun _ _ => rfl)
    (fun m f g => by
      funext s
      simp only [bind_apply]
      rcases m s with ⟨_ | _, _⟩ <;> rfl)

/-- Either the first step fails and the sequence with it, or the rest goes on from there. -/
theorem bind_cases (m : Step σ α) (next : α → Step σ β) (s : BuildState σ) :
    (∃ e, (m s).1 = .error e ∧ (m >>= next) s = (.error e, (m s).2)) ∨
    (∃ a, (m s).1 = .ok a ∧ (m >>= next) s = next a (m s).2) := by
  rw [bind_apply]
  rcases m s with ⟨r, s'⟩
  cases r with
  | error e => exact .inl ⟨e, rfl, rfl⟩
  | ok a => exact .inr ⟨a, rfl, rfl⟩

theorem bind_of_ok {m : Step σ α} {s : BuildState σ} {a : α} (next : α → Step σ β)
    (h : (m s).1 = .ok a) : (m >>= next) s = next a (m s).2 := by
  rcases bind_cases m next s with ⟨e, failed, _⟩ | ⟨a', went, eq⟩
  · rw [h] at failed; cases failed
  · rw [h] at went; cases went; exact eq

theorem bind_of_error {m : Step σ α} {s : BuildState σ} {e : BuildError} (next : α → Step σ β)
    (h : (m s).1 = .error e) : (m >>= next) s = (.error e, (m s).2) := by
  rcases bind_cases m next s with ⟨e', failed, eq⟩ | ⟨a, went, _⟩
  · rw [h] at failed; cases failed; exact eq
  · rw [h] at went; cases went

/-- A sequence that ends well has gone through its first step. -/
theorem ok_of_bind_ok {m : Step σ α} {next : α → Step σ β} {s : BuildState σ} {c : β}
    (h : ((m >>= next) s).1 = .ok c) :
    ∃ a, (m s).1 = .ok a ∧ (next a (m s).2).1 = .ok c ∧ (m >>= next) s = next a (m s).2 := by
  rcases bind_cases m next s with ⟨e, _, eq⟩ | ⟨a, went, eq⟩
  · rw [eq] at h; cases h
  · exact ⟨a, went, eq ▸ h, eq⟩

theorem infoIf_apply (wanted : Bool) (text : String) (s : BuildState σ) :
    ∃ log, infoIf wanted text s = (.ok (), { s with log }) := by
  cases wanted
  · exact ⟨s.log, rfl⟩
  · exact ⟨_, rfl⟩

end Step

/-- From one state of a build to another the store is the same and the files change within
bounds. -/
structure Quiet (touched made : Set Route) (s s' : BuildState σ) : Prop where
  store : s'.store = s.store
  tree : FileTree.Change touched made s.tree s'.tree

namespace Quiet

variable {touched touched' made made' : Set Route} {s s' s'' : BuildState σ}

theorem refl (touched made : Set Route) (s : BuildState σ) : Quiet touched made s s :=
  ⟨rfl, .refl _ _ _⟩

theorem mono (h : Quiet touched made s s') (wider : touched ⊆ touched') (more : made ⊆ made') :
    Quiet touched' made' s s' :=
  ⟨h.store, h.tree.mono wider more⟩

theorem trans (h : Quiet touched made s s') (h' : Quiet touched made s' s'') :
    Quiet touched made s s'' :=
  ⟨h'.store.trans h.store, h.tree.trans h'.tree⟩

end Quiet

/-- Taken in a working directory and with a store, a step is quiet within bounds, however it
ends. -/
def Step.Within (cwd : Route) (store : ModuleStore) (touched made : Set Route) (m : Step σ α) :
    Prop :=
  ∀ s : BuildState σ, s.tree.workingDirectory = cwd → s.store = store →
    Quiet touched made s (m s).2

namespace Step.Within

variable {cwd : Route} {store : ModuleStore} {touched touched' made made' : Set Route}
  {m : Step σ α} {next : α → Step σ β}

theorem mono (h : m.Within cwd store touched made) (wider : touched ⊆ touched')
    (more : made ⊆ made') : m.Within cwd store touched' made' :=
  fun s there held => (h s there held).mono wider more

theorem bind (first : m.Within cwd store touched made)
    (rest : ∀ a, (next a).Within cwd store touched made) :
    (m >>= next).Within cwd store touched made := by
  intro s there held
  have before := first s there held
  rcases bind_cases m next s with ⟨e, _, eq⟩ | ⟨a, _, eq⟩
  · rw [eq]; exact before
  · rw [eq]
    exact before.trans
      (rest a _ (before.tree.cwd.trans there) (before.store.trans held))

/-- What is asked of the state is an answer of that working directory and store. -/
theorem ask_bind {f : BuildState σ → α}
    (rest : ∀ s : BuildState σ, s.tree.workingDirectory = cwd → s.store = store →
      (next (f s)).Within cwd store touched made) :
    (Step.ask f >>= next).Within cwd store touched made :=
  fun s there held => rest s there held s there held

theorem pure (a : α) : (Pure.pure a : Step σ α).Within cwd store touched made :=
  fun s _ _ => .refl _ _ s

theorem need (f : BuildState σ → Except BuildError α) :
    (Step.need f).Within cwd store touched made :=
  fun s _ _ => .refl _ _ s

theorem info (text : String) : (Step.info text : Step σ Unit).Within cwd store touched made :=
  fun _ _ _ => ⟨rfl, .refl _ _ _⟩

theorem infoIf (wanted : Bool) (text : String) :
    (Step.infoIf wanted text : Step σ Unit).Within cwd store touched made := by
  cases wanted
  · exact .pure ()
  · exact .info text

/-- An operation on files changes what it changes when it succeeds, and nothing otherwise. -/
theorem files {path : Path} {f : FileTree → Except Fault FileTree}
    (h : ∀ t u, t.workingDirectory = cwd → f t = .ok u → FileTree.Change touched made t u) :
    (Step.files path f : Step σ Unit).Within cwd store touched made := by
  intro s there _
  simp only [Step.files]
  cases changed : f s.tree with
  | error cause => exact .refl _ _ s
  | ok u => exact ⟨rfl, h s.tree u there changed⟩

theorem tryFiles {f : FileTree → Except Fault FileTree}
    (h : ∀ t u, t.workingDirectory = cwd → f t = .ok u → FileTree.Change touched made t u) :
    (Step.tryFiles f : Step σ Unit).Within cwd store touched made := by
  intro s there _
  simp only [Step.tryFiles]
  cases changed : f s.tree with
  | error cause => exact .refl _ _ s
  | ok u => exact ⟨rfl, h s.tree u there changed⟩

end Step.Within
end PlcModule
