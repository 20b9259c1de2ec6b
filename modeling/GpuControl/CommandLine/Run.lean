import GpuControl.Shell.AddressSpace
import GpuControl.Shell.Arguments

namespace GpuControl.CommandLine

open Shell

def versionText : String := "navi 0.1.0"

def usageText : String := String.intercalate "\n" [
  "Register-level AMD Navi GPU diagnostics",
  "",
  "Usage: navi [--bus <BUS>] [--device <DEVICE>] <COMMAND>",
  "",
  "Commands:",
  "  scan                          list the display controllers on the bus",
  "  info                          initialize the device and print its summary",
  "  status                        status registers, compute activity, rings",
  "  ring <ID>                     pointers and state of one ring",
  "  peek <OFFSET>                 read one register",
  "  wait-idle [--timeout-ms <N>]  poll until the device is idle",
  "  reset --yes                   pulse the soft reset",
  "  performance <LEVEL>           ask for a performance level",
  "  vram-check                    write and read back a test pattern"]

/-- Runs a command line. `environment` looks up variables, and `describeElapsed` words a number of
nanoseconds. Nothing if the command never ends. -/
def run (environment : String → Option String) (describeElapsed : Nat → String)
    (arguments : List String) (machine : Machine) : Option (Outcome × Machine) :=
  match readArguments arguments with
  | .error .help => some (⟨0, usageText ++ "\n", ""⟩, machine)
  | .error .version => some (⟨0, versionText ++ "\n", ""⟩, machine)
  | .error (.usage e) => some (⟨2, "", e.message (stylesForced environment) ++ "\n"⟩, machine)
  | .ok invocation => execute environment describeElapsed machine invocation

end GpuControl.CommandLine
