import PlcModule.Fault
import PlcModule.Path

/-! What ends a build early, and the one line that says so. -/
namespace PlcModule

/-- Why a project does not supply its programs, variables or locations. -/
inductive ExtractionCause where
  | unreadable (path : Path) (cause : Fault)
  | malformed (path : Path)
  | unusableKey (key : String)
  | reported (text : String)
  deriving DecidableEq, Repr

def ExtractionCause.message : ExtractionCause → String
  | unreadable path cause => "cannot read inventory " ++ path.text ++ ": " ++ cause.message
  | malformed path => "malformed inventory " ++ path.text ++ ": not an inventory document"
  | unusableKey key => "location key '" ++ key ++ "' cannot be used in C function names"
  | reported text => text

inductive BuildError where
  | template (path : Path) (cause : Fault)
  | unknownPlaceholder (path : Path) (key : String)
  | extraction (cause : ExtractionCause)
  /-- The tool of a build step ran and exited otherwise than it should. -/
  | tool (step subject : String) (code : Option Int) (output : String)
  | toolSpawn (program : String) (cause : Fault)
  /-- The tool of a build step could not be started. -/
  | toolUnavailable (step subject program : String) (cause : Fault)
  | filesystem (path : Path) (cause : Fault)
  | nothingToLink
  deriving DecidableEq, Repr

def BuildError.message : BuildError → String
  | template path cause => "Template error for '" ++ path.text ++ "': " ++ cause.message
  | unknownPlaceholder path key =>
    "Template '" ++ path.text ++ "' references unknown placeholder '%(" ++ key ++ ")s'"
  | extraction cause => "Extraction error: " ++ cause.message
  | tool step subject _ _ => step ++ " of " ++ subject ++ " failed"
  | toolSpawn program cause => "Failed to start '" ++ program ++ "': " ++ cause.message
  | toolUnavailable step subject program cause =>
    step ++ " of " ++ subject ++ " failed: cannot start '" ++ program ++ "': " ++ cause.message
  | filesystem path cause => "File operation failed for '" ++ path.text ++ "': " ++ cause.message
  | nothingToLink => "Nothing to link: no object files were produced"

end PlcModule
