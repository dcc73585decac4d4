import PlcModule.Text.Lines

/-! Colours of messages. A plain style leaves texts as they are. -/
namespace PlcModule

inductive Style where
  | plain
  | coloured
  deriving DecidableEq, Repr

namespace Style

/-- What ends a look on the terminal. -/
def reset : String := "\x1b[0m"

/-- Wraps a text in the terminal's codes for a look, which goes on where the text itself ends
one. -/
def wrap (s : Style) (codes text : String) : String :=
  match s with
  | plain => text
  | coloured =>
    let start := "\x1b[" ++ codes ++ "m"
    start ++ String.ofList (Text.insertAfter reset.toList start.toList 0 text.toList) ++ reset

def red (s : Style) : String → String := s.wrap "31"
def green (s : Style) : String → String := s.wrap "32"
def yellow (s : Style) : String → String := s.wrap "33"
def blue (s : Style) : String → String := s.wrap "34"
def bold (s : Style) : String → String := s.wrap "1"
def boldRed (s : Style) : String → String := s.wrap "1;31"
def boldGreen (s : Style) : String → String := s.wrap "1;32"
def boldYellow (s : Style) : String → String := s.wrap "1;33"

/-- The style that an environment asks for. Its variables count as on unless they are `0`; one
that forces colours wins over one that forbids them, and that over what the terminal can do. -/
def choose (force forbid wanted : Option String) (terminal : Bool) : Style :=
  if force.any (· ≠ "0") then coloured
  else if forbid.isSome then plain
  else if terminal && wanted.all (· ≠ "0") then coloured
  else plain

end Style
end PlcModule
