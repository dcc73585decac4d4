import Mathlib.Data.List.ModifyLast
import PlcModule.Tool.Command

/-! The lines of what a tool wrote. Both streams go into one text and are cut into lines again. No
line that holds more than blanks is lost by that, nor is any doubled, torn or joined to another; the
last of the first stream may lose blanks at its end. -/
namespace PlcModule

namespace Text

/-- The lines of a text that hold more than blanks. -/
def filledLines (s : String) : List String :=
  (lines s).filter fun line => !isBlankText line

section

variable {held cs front back blanks more : List Char}

end

end Text

namespace Tool.Output

/-- The lines of what a tool wrote that hold more than blanks: those of its one stream, then those
of the other. Before lines of the other the last of the first goes without blanks at its end. -/
def filledLines (o : Output) : List String :=
  (if Text.isBlankText o.stderr then Text.filledLines o.stdout
    else (Text.filledLines o.stdout).modifyLast Text.trimEnd) ++ Text.filledLines o.stderr

end Tool.Output
end PlcModule
