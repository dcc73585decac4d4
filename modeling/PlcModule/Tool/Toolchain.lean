import PlcModule.Tool.Command

/-! The tools that make a module, and how each is called. A compiled object is renamed in place;
the objects are linked to an image, which the packager turns into a module. -/
namespace PlcModule.Tool

structure Toolchain where
  compiler : Path
  linker : Path
  renamer : Path
  packager : Path
  linkerScript : Path
  includeDir : Path
  deriving DecidableEq, Repr

namespace Toolchain

/-- Position-independent Thumb code that reaches its data through one base register, so a module
can be loaded anywhere. -/
def compileFlags : String :=
  "-c -g0 -O3 -fPIE -msingle-pic-base -mpic-register=r9 -fomit-frame-pointer " ++
  "-mno-pic-data-is-text-relative -mlong-calls -mthumb -mpoke-function-name"

/-- No startup files or libraries. Relocations are kept for the packager, and what is unresolved
is left to the loader. -/
def linkFlags : String :=
  "-gdwarf-4 -nostartfiles -nodefaultlibs -nostdlib " ++
  "-Wl,--unresolved-symbols=ignore-in-object-files -Wl,--emit-relocs -Wl,-e,0"

/-- The flags of a source come last, so they win over the fixed ones. -/
def compile (t : Toolchain) (source object : Path) (cflags : String) : Command :=
  Command.of t.compiler
    |>.withArg "-I" |>.withPath t.includeDir
    |>.withArg "-Wno-unused-function"
    |>.withPath source
    |>.withArg "-o" |>.withPath object
    |>.withFlags compileFlags |>.withFlags cflags

def rename (t : Toolchain) (object : Path) : Command :=
  (Command.of t.renamer).withPath object

def link (t : Toolchain) (objects : List Path) (image : Path) : Command :=
  Command.of t.linker
    |>.withFlags linkFlags
    |>.withArg ("-T" ++ t.linkerScript.text)
    |>.withArgs (objects.map Path.text)
    |>.withArg "-o" |>.withPath image

def package (t : Toolchain) (module image : Path) : Command :=
  Command.of t.packager
    |>.withArg "--no-debug"
    |>.withArg "--bin-name" |>.withPath module
    |>.withPath image

end Toolchain
end PlcModule.Tool
