import GpuControl.Pci.Identity
import GpuControl.Platform.FileTree
import GpuControl.Platform.Interface

namespace GpuControl

/-- What a host had of the kernel below it so far. -/
inductive KernelEvent where
  | mapped (mapping : Mapping)
  | unmapped (mapping : Mapping)
deriving DecidableEq, Repr

/-- The kernel below a host, by what it says to a request to map the memory device once that is
open: why it refuses to map so many bytes from a base on, or nothing where it maps them. What it
says may depend on all that it mapped and unmapped before, the latest first. -/
class Kernel where
  refusal? : List KernelEvent → UInt64 → Nat → Option PlatformError

/-- A running system: a tree of files with one directory for each PCI function, and a device file
through which the kernel maps physical memory. -/
structure SysfsHost where
  /-- The directory at the top of the tree, as it is written. -/
  root : String
  tree : FileTree := {}
  /-- Where the tree has the device that stands for physical memory. -/
  memoryPath : FilePath := ["dev", "mem"]
  [kernel : Kernel]
  /-- Latest first. -/
  events : List KernelEvent := []

namespace SysfsHost

/-- A path below a directory, as text. -/
def joinText (directory name : String) : String :=
  if directory.isEmpty then name
  else if directory.endsWith "/" then directory ++ name
  else directory ++ "/" ++ name

/-- The directory of a function, as text. -/
def deviceDirText (host : SysfsHost) (addr : PciAddress) : String :=
  joinText (joinText host.root "bus/pci/devices") addr.treeName

/-- The directory of a function. -/
def deviceDir (host : SysfsHost) (addr : PciAddress) : FilePath :=
  FilePath.ofText host.root ++ ["bus", "pci", "devices", addr.treeName]

/-- One little-endian word of the function's configuration file. A function without such a file is
absent, and a file that ends before the word is closed to this user. -/
def readConfig (host : SysfsHost) (addr : PciAddress) (offset : UInt16) :
    Except PlatformError UInt32 :=
  match host.tree.read (host.deviceDir addr ++ ["config"]) with
  | .error e => if e.kind = .notFound then .ok absentWord else .error e
  | .ok bytes =>
    let word := (bytes.drop offset.toNat).take 4
    if word.length = 4 then .ok (LittleEndian.toDword word)
    else
      .error ⟨.permissionDenied,
        s!"{host.deviceDirText addr}/config truncated at {Text.hex offset.toNat} (not root?)"⟩

/-- Why the memory device cannot be mapped, if so: there is nothing to map, the device cannot be
opened or the kernel refuses. -/
def mappingRefusal? (host : SysfsHost) (phys : UInt64) (len : Nat) : Option PlatformError :=
  if len = 0 then some ⟨.invalidInput, "zero-length mapping"⟩
  else
    match host.tree.openFile host.memoryPath with
    | .error e => some e
    | .ok _ => host.kernel.refusal? host.events phys len

def mapPhysical (host : SysfsHost) (phys : UInt64) (len : Nat) :
    Except PlatformError Mapping × SysfsHost :=
  match host.mappingRefusal? phys len with
  | some e => (.error e, host)
  | none =>
    let mapping : Mapping := ⟨phys, ⟨0, phys.toNat⟩, len⟩
    (.ok mapping, { host with events := .mapped mapping :: host.events })

def unmap (host : SysfsHost) (mapping : Mapping) : SysfsHost :=
  { host with events := .unmapped mapping :: host.events }

/-- The link by the function's two attributes. -/
def linkStatus (host : SysfsHost) (addr : PciAddress) : Except PlatformError PcieLink :=
  match host.tree.readText (host.deviceDir addr ++ ["current_link_speed"]) with
  | .error e => .error e
  | .ok speed =>
    match host.tree.readText (host.deviceDir addr ++ ["current_link_width"]) with
    | .error e => .error e
    | .ok width => PcieLink.ofTexts speed.toList width.toList

/-- The attribute to which a performance level is written. -/
def performanceAttribute : String := "power_dpm_force_performance_level"

def setPerformanceLevel (host : SysfsHost) (addr : PciAddress) (level : PerformanceLevel) :
    Except PlatformError Unit × SysfsHost :=
  let (result, tree) := host.tree.replace (host.deviceDir addr ++ [performanceAttribute])
    (.file level.text.toUTF8.toList)
  (result, { host with tree := tree })

def platform : Platform SysfsHost where
  name := "linux"
  readConfig := readConfig
  mapPhysical := mapPhysical
  unmap := unmap
  linkStatus := fun host addr => (host.linkStatus addr, host)
  setPerformanceLevel := setPerformanceLevel

end SysfsHost

end GpuControl
