import PlcModule.Style
import PlcModule.Text.Lines

/-! Hints for failures that have a usual cause. -/
namespace PlcModule

inductive Hint where
  | toolchainMissing
  | linkerScriptMissing
  | runtimeHeadersMissing
  | generatedHeaderMissing
  | relocationTooFar
  | programMissing (program : String)
  deriving DecidableEq, Repr

namespace Hint

/-- The hint that a failed tool's output calls for: the first kind of trouble that it names. -/
def ofOutput (output : String) : Option Hint :=
  let mentions := Text.contains output
  if mentions "arm-none-eabi-gcc: not found" || mentions "arm-none-eabi-gcc: command not found" then
    some toolchainMissing
  else if mentions "cannot open linker script file" then some linkerScriptMissing
  else if mentions "fatal error: " && mentions "No such file or directory" then
    some (if mentions "iec_" || mentions "accessor.h" then runtimeHeadersMissing else generatedHeaderMissing)
  else if mentions "relocation truncated to fit" then some relocationTooFar
  else none

/-- The hint for a program that could not be started. -/
def ofProgram (program : String) : Hint :=
  if Text.contains program "arm-none-eabi" then toolchainMissing else programMissing program

def text (s : Style) : Hint → String
  | toolchainMissing =>
    "The " ++ s.boldYellow "arm-none-eabi" ++ " toolchain is not on PATH.\n" ++
    "Install the GNU Arm Embedded toolchain or set " ++ s.boldGreen "[toolchain] compiler" ++
    " in the project file."
  | linkerScriptMissing =>
    "The " ++ s.boldRed "linker script" ++ " could not be found.\n" ++
    "Check " ++ s.boldYellow "[toolchain] linker_script" ++ " in the project file."
  | runtimeHeadersMissing =>
    "The " ++ s.boldRed "IEC runtime" ++ " headers were not found.\n" ++
    "Point " ++ s.boldYellow "[toolchain] include_dir" ++ " at the matiec include directory."
  | generatedHeaderMissing =>
    "It looks like a " ++ s.boldRed "Missing Header" ++ " error.\n" ++
    "Regenerate the IEC sources so every generated header is in the build directory."
  | relocationTooFar =>
    "A " ++ s.boldRed "relocation" ++ " does not fit the module layout.\n" ++
    "Modules must be built with " ++ s.boldGreen "-mlong-calls" ++ "; check the per-file cflags."
  | programMissing program =>
    "'" ++ s.bold program ++ "' could not be started.\n" ++
    "Check the " ++ s.boldYellow "[toolchain]" ++ " paths in the project file."

end Hint
end PlcModule
