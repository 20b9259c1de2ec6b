import GpuControl.Link
import GpuControl.Pci.Address
import GpuControl.Power
import GpuControl.Window.Mapped

namespace GpuControl

/-- What the driver asks of the machine below it, as steps on a state `σ`. The bytes of physical
memory are kept apart from that state, as no step changes them. -/
structure Platform (σ : Type) where
  name : String
  /-- One word of configuration space; an absent function reads as all ones. -/
  readConfig : σ → PciAddress → UInt16 → Except PlatformError UInt32
  /-- Maps `len` bytes of physical memory. -/
  mapPhysical : σ → UInt64 → Nat → Except PlatformError Mapping × σ
  /-- Gives a mapping back. -/
  unmap : σ → Mapping → σ
  /-- The negotiated link of a function. -/
  linkStatus : σ → PciAddress → Except PlatformError PcieLink × σ :=
    fun s _ => (.error ⟨.unsupported, "link status not available on this platform"⟩, s)
  /-- Asks for a performance level. -/
  setPerformanceLevel : σ → PciAddress → PerformanceLevel → Except PlatformError Unit × σ :=
    fun s _ _ => (.error ⟨.unsupported, "power control not available on this platform"⟩, s)

namespace Platform

variable {σ : Type}

/-- Maps a window. A misaligned base is refused before the platform is asked; an empty mapping is
given back. -/
def mapWindow (p : Platform σ) (s : σ) (kind : WindowKind) (phys : UInt64) (len : Nat) :
    Except DriverError Window × σ :=
  match Window.checkAlignment kind phys with
  | .error e => (.error e, s)
  | .ok _ =>
    match p.mapPhysical s phys len with
    | (.error e, s) => (.error (.mappingFailed kind phys len e.text), s)
    | (.ok mapping, s) =>
      match Window.wrap kind phys mapping with
      | .error e => (.error e, p.unmap s mapping)
      | .ok window => (.ok window, s)

/-- Asks for the link up to `attempts` times. An answer ends the query, and so does the platform
saying that it cannot tell; any other failure may be passing. -/
def queryLinkUpTo (p : Platform σ) (addr : PciAddress) : Nat → σ → Option PcieLink × σ
  | 0, s => (none, s)
  | attempts + 1, s =>
    match p.linkStatus s addr with
    | (.ok link, s) => (some link, s)
    | (.error e, s) =>
      if e.kind = .unsupported then (none, s) else queryLinkUpTo p addr attempts s

/-- Asks for the link, and `retries` times more if that fails. -/
def queryLink (p : Platform σ) (s : σ) (addr : PciAddress) (retries : UInt32) :
    Option PcieLink × σ :=
  p.queryLinkUpTo addr (retries.toNat + 1) s

/-- Asks for a performance level and says whether it was applied. -/
def requestLevel (p : Platform σ) (s : σ) (addr : PciAddress) (level : PerformanceLevel) :
    Bool × σ :=
  match p.setPerformanceLevel s addr level with
  | (.ok _, s) => (true, s)
  | (.error _, s) => (false, s)

/-- The platform with reads of some configuration words failing. -/
def withConfigFaults (p : Platform σ) (faults : List (PciAddress × UInt16)) : Platform σ :=
  { p with
    readConfig := fun s addr offset =>
      if (addr, offset) ∈ faults then .error ⟨.permissionDenied, "scripted config fault"⟩
      else p.readConfig s addr offset }

end Platform

end GpuControl
