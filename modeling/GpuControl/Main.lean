import GpuControl.CommandLine.Run
import GpuControl.Memory.Image

namespace GpuControl.CommandLine

/-- Where physical memory is found. -/
def memoryPath : String := "/dev/mem"

/-- The attributes of a function that commands read. -/
def attributes : List String :=
  ["config", "current_link_speed", "current_link_width", SysfsHost.performanceAttribute]

/-- A file's bytes; nothing if it cannot be read. -/
def readBytes? (path : String) : IO (Option ByteArray) := do
  try
    return some (← IO.FS.readBinFile path)
  catch _ =>
    return none

/-- The tree with the attributes of all functions that a scan visits. -/
def loadTree (host : SysfsHost) : IO FileTree := do
  let mut tree := host.tree
  for address in PciAddress.slots do
    for name in attributes do
      let path := SysfsHost.joinText (host.deviceDirText address) name
      if let some bytes ← readBytes? path then
        tree := tree.put (host.deviceDir address ++ [name]) (.file bytes.toList)
  return tree

/-- Writes the performance attributes that differ from those before. -/
def storeTree (before after : SysfsHost) : IO Unit := do
  for address in PciAddress.slots do
    let path := before.deviceDir address ++ [SysfsHost.performanceAttribute]
    if after.tree.node? path ≠ before.tree.node? path then
      if let .ok bytes := after.tree.read path then
        IO.FS.writeBinFile
          (SysfsHost.joinText (before.deviceDirText address) SysfsHost.performanceAttribute)
          ⟨bytes.toArray⟩

/-- A wait that nothing can end. -/
partial def waitForever : IO UInt32 := do
  IO.sleep 1000
  waitForever

/-- Runs the command line on the machine and returns the exit code. -/
def runProgram (arguments : List String) : IO UInt32 := do
  let names := ["NAVI_SYSFS_ROOT", "NAVI_COMPUTE_RING", "NAVI_RING_MARGIN",
    "NAVI_MAX_STREAM_WORDS", "NAVI_POLL_INTERVAL_US", "NAVI_LINK_RETRIES",
    "NAVI_STRICT_ALIGNMENT", "CLICOLOR_FORCE", "NO_COLOR"]
  let settings ← names.filterMapM fun name => return (← IO.getEnv name).map (name, ·)
  let root := (settings.lookup "NAVI_SYSFS_ROOT").getD "/sys"
  let image? ← readBytes? memoryPath
  let tree := match image? with
    | none => {}
    | some image => ({} : FileTree).put (FilePath.ofText memoryPath) (.memory image.size)
  let host : SysfsHost := { root, tree, memoryPath := FilePath.ofText memoryPath }
  let machine : Machine :=
    ⟨{ host with tree := ← loadTree host }, (image?.map Memory.ofImage).getD {}⟩
  let describeElapsed (elapsed : Nat) : String := s!"{elapsed}ns"
  match run (fun name => settings.lookup name) describeElapsed arguments machine with
  | none => waitForever
  | some (outcome, after) =>
    storeTree machine.host after.host
    if let some image := image? then
      let changed := after.memory.overImage image
      if changed.data ≠ image.data then IO.FS.writeBinFile memoryPath changed
    (← IO.getStdout).putStr outcome.stdout
    (← IO.getStderr).putStr outcome.stderr
    return UInt32.ofNat outcome.exitCode

end GpuControl.CommandLine

def main (arguments : List String) : IO UInt32 :=
  GpuControl.CommandLine.runProgram arguments
