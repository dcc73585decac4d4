import PlcModule.Proofs.Build.Reach

/-! A small project to try theorems on. Its templates are empty; of its tools only the packager
makes anything. -/
namespace PlcModule.Sample

def toolchain : Tool.Toolchain :=
  ⟨⟨"cc"⟩, ⟨"ld"⟩, ⟨"rename"⟩, ⟨"pack"⟩, ⟨"plc.ld"⟩, ⟨"include"⟩⟩

/-- Answers one exit code to every command. The packager writes a module of the given bytes, where
it can. -/
def runner (code : Int) (content : ByteArray) : Runner Unit := fun c tree _ =>
  (.ok ⟨some code, "", ""⟩,
    if c.program = toolchain.packager then
      ((c.args[2]?).bind fun p => (tree.writeBytes ⟨p⟩ content).toOption).getD tree
    else tree, ())

theorem runner_tame (code : Int) (content : ByteArray) :
    Runner.Tame (runner code content) toolchain := by
  intro c p makes tree r
  have idle {c : Tool.Command} (other : c.program ≠ toolchain.packager) :
      FileTree.Change {p.route tree.workingDirectory} ∅ tree (runner code content c tree r).2.1 := by
    simp only [runner, other, if_false]
    exact .refl _ _ tree
  cases makes with
  | compile source object cflags => exact idle (show (⟨"cc"⟩ : Path) ≠ ⟨"pack"⟩ by decide)
  | rename object => exact idle (show (⟨"rename"⟩ : Path) ≠ ⟨"pack"⟩ by decide)
  | link objects image => exact idle (show (⟨"ld"⟩ : Path) ≠ ⟨"pack"⟩ by decide)
  | package module image =>
    have made : (runner code content (toolchain.package p image) tree r).2.1 =
        (tree.writeBytes p content).toOption.getD tree := rfl
    rw [made]
    cases written : tree.writeBytes p content with
    | error cause => exact .refl _ _ tree
    | ok u => exact FileTree.writeBytes_change written

/-- The file that a command of the toolchain is to make, by the order of its words. -/
def output (c : Tool.Command) : Option String :=
  if c.program = toolchain.compiler then c.args[5]?
  else if c.program = toolchain.packager then c.args[2]?
  else c.args.getLast?

theorem output_eq {c : Tool.Command} {p : Path} (makes : toolchain.Makes c p) :
    output c = some p.text := by
  cases makes with
  | compile source object cflags => rfl
  | rename object => rfl
  | link objects image =>
    have program : (toolchain.link objects p).program = toolchain.linker := rfl
    have last : (toolchain.link objects p).args.getLast? = some p.text := by
      simp only [Tool.Toolchain.link, Tool.Command.withPath, Tool.Command.withArg,
        Tool.Command.withArgs, List.getLast?_concat]
    rw [output, program, if_neg (by decide), if_neg (by decide), last]
  | package module image => rfl

/-- Every tool makes its file of the given bytes, and fails if it cannot. -/
def maker (content : ByteArray) : Runner Unit := fun c tree _ =>
  match (output c).map fun p => tree.writeBytes ⟨p⟩ content with
  | some (.ok made) => (.ok ⟨some 0, "", ""⟩, made, ())
  | _ => (.ok ⟨some 1, "", ""⟩, tree, ())

/-- What the maker does to a tree is what writing does. -/
theorem maker_eq {c : Tool.Command} {p : Path} (makes : toolchain.Makes c p) (content : ByteArray)
    (tree : FileTree) (r : Unit) :
    maker content c tree r = match tree.writeBytes p content with
      | .ok made => (.ok ⟨some 0, "", ""⟩, made, ())
      | .error _ => (.ok ⟨some 1, "", ""⟩, tree, ()) := by
  have path : (⟨p.text⟩ : Path) = p := rfl
  simp only [maker, output_eq makes, Option.map_some, path]
  cases tree.writeBytes p content <;> rfl

theorem maker_tame (content : ByteArray) : Runner.Tame (maker content) toolchain := by
  intro c p makes tree r
  rw [maker_eq makes]
  cases written : tree.writeBytes p content with
  | error cause => exact .refl _ _ tree
  | ok made => exact FileTree.writeBytes_change written

def templates : TemplateSet :=
  ⟨⟨"t"⟩, "T"⟩

/-- A working directory with the templates. -/
def tree : FileTree where
  workingDirectory := ["work"]
  entries := [(["work"], .directory), (["work", "t"], .directory), (["work", "t", "T"], .directory),
    (["work", "t", "T", "T_main.c"], .file .empty false),
    (["work", "t", "T", "T_debug.c"], .file .empty false),
    (["work", "t", "T", "var_access.c"], .file .empty false),
    (["work", "t", "T", "beremiz.h"], .file .empty false)]
  distinct := by decide

/-- The same with a module in a build directory, and something at the place of its digest. -/
def treeWithModule (record : Entry) : FileTree :=
  ((tree.put ["work", "b"] .directory).put ["work", "b", "p.bin"] (.file "OLD".toUTF8 false)).put
    ["work", "b", ModuleStore.hashFileName] record

/-- A project without locations of its own. -/
def input : BuildInput :=
  ⟨[], false, fun _ => .ok ⟨[], []⟩⟩

def builder (runner : Runner Unit) : Builder Unit :=
  ⟨toolchain, templates, runner, false, .plain, "1.00s"⟩

/-- Before the first build of a module in a build directory. -/
def start (tree : FileTree) (buildDir : String) : BuildState Unit :=
  ⟨tree, .fresh ⟨buildDir⟩ "p" ".bin", [], [], ()⟩

theorem named (tree : FileTree) (buildDir : String) :
    ModuleStore.IsModuleName (start tree buildDir).store.binaryName := by
  have name : (start tree buildDir).store.binaryName = "p.bin" := rfl
  rw [name]
  exact ⟨by decide, by decide, by decide⟩

end PlcModule.Sample
