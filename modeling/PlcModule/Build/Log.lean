import PlcModule.Text.Lines

/-! What a build tells its user, line by line. A line may hold line ends of its own. -/
namespace PlcModule

inductive LogLine where
  | info (text : String)
  | error (text : String)
  deriving DecidableEq, Repr

namespace LogLine

def text : LogLine → String
  | info s => s
  | error s => s

def error? : LogLine → Option String
  | error s => some s
  | info _ => none

end LogLine

/-- The lines in the order in which they were told. -/
abbrev Log := List LogLine

namespace Log

def errors (log : Log) : List String :=
  log.filterMap LogLine.error?

/-- Whether some line holds a text. -/
def mentions (log : Log) (text : String) : Bool :=
  log.any fun line => Text.contains line.text text

end Log
end PlcModule
