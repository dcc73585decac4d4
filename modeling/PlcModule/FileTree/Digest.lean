import PlcModule.Digest.Reading
import PlcModule.FileTree.Operations

/-! Digests of files. -/
namespace PlcModule.FileTree

def digest (t : FileTree) (p : Path) : Except Fault String :=
  (t.readBytes p).map Digest.md5OfFile

end PlcModule.FileTree
