import PlcModule.BuildError
import PlcModule.FileTree.Operations
import PlcModule.Text.Blank

/-! The store of a project's module: where its files are in the build directory, what digest the
module was recorded with, and which sources went into it. -/
namespace PlcModule

/-- Digests of sources. Paths that name one place have one digest, the last recorded. -/
structure SourceDigests where
  entries : List (List Path.Component × String)
  distinct : (entries.map Prod.fst).Nodup

namespace SourceDigests

def empty : SourceDigests :=
  ⟨[], by simp⟩

def find? (d : SourceDigests) (source : Path) : Option String :=
  d.entries.lookup source.components

def record (d : SourceDigests) (source : Path) (digest : String) : SourceDigests where
  entries := (source.components, digest) ::
    d.entries.filter fun x => x.1 ≠ source.components
  distinct := by
    rw [List.map_cons, List.nodup_cons]
    refine ⟨?_, (List.Sublist.map Prod.fst List.filter_sublist).nodup d.distinct⟩
    simp

def recordAll (d : SourceDigests) (items : List (Path × String)) : SourceDigests :=
  items.foldl (fun d x => d.record x.1 x.2) d

def size (d : SourceDigests) : Nat :=
  d.entries.length

end SourceDigests

structure ModuleStore where
  buildDir : Path
  projectName : String
  extension : String
  /-- The digest that was recorded last, as long as it holds. -/
  cachedHash : Option String
  digests : SourceDigests

namespace ModuleStore

/-- A store that remembers nothing yet. -/
def fresh (buildDir : Path) (projectName extension : String) : ModuleStore :=
  ⟨buildDir, projectName, extension, none, .empty⟩

def binaryName (s : ModuleStore) : String :=
  s.projectName ++ s.extension

def binary (s : ModuleStore) : Path :=
  s.buildDir.child s.binaryName

def imageName (s : ModuleStore) : String :=
  s.projectName ++ ".elf"

/-- The linked image that the module is packaged from. -/
def image (s : ModuleStore) : Path :=
  s.buildDir.child s.imageName

/-- Where the packager writes, before its output replaces the module. -/
def staged (s : ModuleStore) : Path :=
  s.buildDir.child (s.binaryName ++ ".tmp")

def hashFileName : String := "lastbuildPLC.md5"

/-- The file beside the module that holds its digest. -/
def hashFile (s : ModuleStore) : Path :=
  s.buildDir.child hashFileName

/-- Goes over to another build directory, forgetting all that was said of the one before. Under
another spelling of its path it is the same one. -/
def moveTo (s : ModuleStore) (dir : Path) : ModuleStore :=
  if s.buildDir.same dir then s
  else { s with buildDir := dir, cachedHash := none, digests := .empty }

/-- The digest that the file beside the module holds, if it holds any. -/
def hashOnDisk (s : ModuleStore) (tree : FileTree) : Option String :=
  match tree.readText s.hashFile with
  | .ok content => if Text.isBlankText content then none else some (Text.trim content)
  | .error _ => none

/-- The digest of the module, if it is known. -/
def hash (s : ModuleStore) (tree : FileTree) : Option String :=
  s.cachedHash <|> s.hashOnDisk tree

/-- The files without the one that holds the digest. One that cannot be removed stays. -/
def dropHashFile (s : ModuleStore) (tree : FileTree) : FileTree :=
  (tree.removeFile s.hashFile).toOption.getD tree

def forgetHash (s : ModuleStore) : ModuleStore :=
  { s with cachedHash := none }

/-- The files with a digest written beside the module. -/
def writeHashFile (s : ModuleStore) (tree : FileTree) (hash : String) :
    Except BuildError FileTree :=
  match tree.writeBytes s.hashFile hash.toUTF8 with
  | .ok tree => .ok tree
  | .error cause => .error (.filesystem s.hashFile cause)

def rememberHash (s : ModuleStore) (hash : String) : ModuleStore :=
  { s with cachedHash := some hash }

def recordDigests (s : ModuleStore) (items : List (Path × String)) : ModuleStore :=
  { s with digests := s.digests.recordAll items }

end ModuleStore
end PlcModule
