import Mathlib.Data.List.Forall2
import PlcModule.Project.Basic
import PlcModule.Proofs.Path.Components

/-! Paths of a project, seen from one directory after another. Paths can be joined in any order, and
one that was joined has no fewer components, so a tool that was looked for in a directory is still
looked for there. Resolving a project twice is therefore resolving it once, against the two
directories joined, and a resolved project differs from what it was in its paths only. -/
namespace PlcModule

namespace Project

/-- A project with other paths: `place` is for those that lead to files, `tool` for the programs. -/
def mapPaths (place tool : Path → Path) (p : Project) : Project :=
  { p with
    buildDir := place p.buildDir
    inventoryFile := p.inventoryFile.map place
    toolchain :=
      { compiler := tool p.toolchain.compiler
        linker := tool p.toolchain.linker
        renamer := tool p.toolchain.renamer
        packager := tool p.toolchain.packager
        linkerScript := place p.toolchain.linkerScript
        includeDir := place p.toolchain.includeDir }
    templates := place p.templates
    locations := p.locations.map fun l =>
      { l with sources := l.sources.map fun u => { u with file := place u.file } } }

/-- All that a project says but for its paths. -/
def withoutPaths (p : Project) : Project :=
  p.mapPaths (fun _ => ⟨""⟩) (fun _ => ⟨""⟩)

/-- The paths that lead to files. -/
def places (p : Project) : List Path :=
  p.buildDir :: p.inventoryFile.toList ++
    [p.toolchain.linkerScript, p.toolchain.includeDir, p.templates] ++
    p.locations.flatMap fun l => l.sources.map SourceUnit.file

/-- The programs that a build runs. -/
def tools (p : Project) : List Path :=
  [p.toolchain.compiler, p.toolchain.linker, p.toolchain.renamer, p.toolchain.packager]

section

variable (p : Project) (place tool place' tool' : Path → Path)

theorem mapPaths_mapPaths :
    (p.mapPaths place tool).mapPaths place' tool' = p.mapPaths (place' ∘ place) (tool' ∘ tool) := by
  simp [mapPaths, Function.comp_def]

theorem places_mapPaths : (p.mapPaths place tool).places = p.places.map place := by
  cases inventory : p.inventoryFile <;>
    simp [places, mapPaths, inventory, List.flatMap_map, List.map_flatMap, Function.comp_def]

theorem tools_mapPaths : (p.mapPaths place tool).tools = p.tools.map tool := rfl

theorem withoutPaths_mapPaths : (p.mapPaths place tool).withoutPaths = p.withoutPaths := by
  simp [withoutPaths, mapPaths_mapPaths, Function.comp_def]

theorem resolve_eq (base : Path) : p.resolve base = p.mapPaths base.join (resolveTool base) := rfl

end

/-- A tool that is not looked up where programs are is not when seen from elsewhere either. -/
theorem resolveTool_comp (inner outer : Path) :
    resolveTool outer ∘ resolveTool inner = resolveTool (outer.join inner) := by
  funext tool
  rw [Function.comp_apply]
  by_cases bare : 1 < tool.components.length
  · have still : 1 < (inner.join tool).components.length :=
      bare.trans_le (Path.length_components_join inner tool)
    simp only [resolveTool, bare, still, if_true, Path.join_assoc]
  · simp only [resolveTool, bare, if_false]

/-- Resolving against one base and then against another is resolving once against the first seen
from the second, so against an absolute base once is enough. What is absolute stays, and so does a
tool of one component; against an absolute base all else becomes absolute. Nothing but paths
changes, and no path is lost or moved. -/
theorem resolve_composes (p : Project) :
    (∀ inner outer : Path, (p.resolve inner).resolve outer = p.resolve (outer.join inner)) ∧
    (∀ base : Path, base.isAbsolute = true → (p.resolve base).resolve base = p.resolve base) ∧
    ∀ base : Path, (p.resolve base).withoutPaths = p.withoutPaths ∧
      List.Forall₂ (fun before after => (before.isAbsolute = true → after = before) ∧
        (base.isAbsolute = true → after.isAbsolute = true)) p.places (p.resolve base).places ∧
      List.Forall₂ (fun before after =>
        (before.isAbsolute = true ∨ before.components.length ≤ 1 → after = before) ∧
        (base.isAbsolute = true → 1 < before.components.length → after.isAbsolute = true))
        p.tools (p.resolve base).tools := by
  have once {base : Path} (root : base.isAbsolute = true) (q : Path) :
      (base.join q).isAbsolute = true := by
    cases own : q.isAbsolute with
    | true => rw [Path.join_absolute _ _ own, own]
    | false => rw [FileTree.isAbsolute_join base q own, root]
  have twice (inner outer : Path) : (p.resolve inner).resolve outer = p.resolve (outer.join inner) := by
    have places : outer.join ∘ inner.join = (outer.join inner).join :=
      funext fun q => Path.join_assoc outer inner q
    rw [resolve_eq, resolve_eq, mapPaths_mapPaths, places, resolveTool_comp, ← resolve_eq]
  refine ⟨twice, fun base root => ?_, fun base => ⟨?_, ?_, ?_⟩⟩
  · rw [twice, Path.join_absolute _ _ root]
  · rw [resolve_eq, withoutPaths_mapPaths]
  · rw [resolve_eq, places_mapPaths, List.forall₂_map_right_iff, List.forall₂_same]
    exact fun q _ => ⟨Path.join_absolute base q, fun root => once root q⟩
  · rw [resolve_eq, tools_mapPaths, List.forall₂_map_right_iff, List.forall₂_same]
    intro tool _
    by_cases bare : 1 < tool.components.length
    · simp only [resolveTool, bare, if_true]
      refine ⟨?_, fun root _ => once root tool⟩
      rintro (root | few)
      · exact Path.join_absolute base tool root
      · omega
    · simp [resolveTool, bare]

end Project
end PlcModule
