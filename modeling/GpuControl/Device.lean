import GpuControl.Activity
import GpuControl.Discovery
import GpuControl.Ring.Access

namespace GpuControl

/-- An opened device: its identity, its windows, the settings it was opened with and the host's
write pointers. -/
structure Device where
  info : PciDevice
  config : DriverConfig
  registers : RegisterBlock
  aperture : Aperture
  /-- Rings can be driven through registers alone. -/
  doorbell : Option DoorbellWindow
  /-- The link as it was when the device was opened. -/
  link : Option PcieLink
  pointers : WritePointers := {}

namespace Platform

variable {σ : Type}

/-- Gives windows back, the first of the list first. -/
def unmapAll (p : Platform σ) (s : σ) (windows : List Window) : σ :=
  windows.foldl (fun s w => p.unmap s w.mapping) s

/-- Maps the granule that holds the doorbell register's base. An unreadable, unassigned or
unmappable doorbell window is done without. -/
def mapDoorbell (p : Platform σ) (s : σ) (addr : PciAddress) (config : DriverConfig) :
    Option DoorbellWindow × σ :=
  match p.readBar s addr .doorbell with
  | .error _ => (none, s)
  | .ok bar =>
    if bar.base = 0 then (none, s)
    else
      let granule := alignDown bar.base WindowKind.doorbell.alignment
      match p.mapWindow s .doorbell granule config.doorbellSize with
      | (.error _, s) => (none, s)
      | (.ok window, s) =>
        match DoorbellWindow.wrap window bar.base with
        | .error _ => (none, p.unmap s window.mapping)
        | .ok doorbell => (some doorbell, s)

/-- The physical bases of registers and aperture, as the base address registers give them. -/
def windowBases (p : Platform σ) (s : σ) (addr : PciAddress) (strict : Bool) :
    Except DriverError (UInt64 × UInt64) :=
  match p.readBar s addr .registers with
  | .error e => .error e
  | .ok registers =>
    match p.readBar s addr .aperture with
    | .error e => .error e
    | .ok aperture =>
      match registers.mapBase strict with
      | .error e => .error e
      | .ok registersBase => (aperture.mapBase strict).map fun base => (registersBase, base)

end Platform

namespace Device

variable {σ : Type}

/-- The windows in the order in which they are given back. -/
def windows (d : Device) : List Window :=
  (d.doorbell.map (·.window)).toList ++ [d.aperture.window, d.registers.window]

/-- Finds a device, maps its windows, checks that register reads reach it and asks for its link. An
opening that fails gives back what it mapped, the last window first. -/
def init (p : Platform σ) (m : Memory) (selector : DeviceSelector) (config : DriverConfig)
    (s : σ) : Except DriverError Device × σ :=
  match p.select s selector with
  | .error e => (.error e, s)
  | .ok info =>
    match p.windowBases s info.address config.strictAlignment with
    | .error e => (.error e, s)
    | .ok (registersBase, apertureBase) =>
      match p.mapWindow s .registers registersBase config.registerWindowSize with
      | (.error e, s) => (.error e, s)
      | (.ok registers, s) =>
        match p.mapWindow s .aperture apertureBase config.apertureSize with
        | (.error e, s) => (.error e, p.unmap s registers.mapping)
        | (.ok aperture, s) =>
          let (doorbell, s) := p.mapDoorbell s info.address config
          let device : Device := {
            info, config, doorbell
            registers := ⟨registers⟩
            aperture := ⟨aperture, info.vramBytes⟩
            link := none }
          let status := device.registers.read32 m config.registers.status
          if status = sentinel then
            (.error (.poisonedRead config.registers.status status),
              p.unmapAll s device.windows)
          else
            let (link, s) := p.queryLink s info.address config.linkRetries
            (.ok { device with link }, s)

/-- Gives all windows back. -/
def close (p : Platform σ) (d : Device) (s : σ) : σ := p.unmapAll s d.windows

/-- Whether configuration space still names the vendor and the status register still answers. -/
def verifyAccess (p : Platform σ) (s : σ) (m : Memory) (d : Device) : Bool :=
  let vendorOk := match p.readConfig s d.info.address idOffset with
    | .ok word => (splitIdWord word).1 == amdVendorId
    | .error _ => false
  vendorOk && d.registers.read32 m d.config.registers.status != sentinel

/-- The rings of the device. -/
def rings (d : Device) : RingAccess where
  registers := d.registers
  aperture := d.aperture
  doorbell := d.doorbell
  map := d.config.registers
  margin := d.config.ringMargin

/-- The device together with memory, as the destination of launches. -/
def sink : CommandSink (Device × Memory) where
  submit := fun ring words (d, m) =>
    let (result, s) := d.rings.submit ring words ⟨m, d.pointers⟩
    (result, ({ d with pointers := s.pointers }, s.memory))
  doorbell := fun ring writePtr (d, m) =>
    let (result, s) := d.rings.ringDoorbell ring writePtr ⟨m, d.pointers⟩
    (result, ({ d with pointers := s.pointers }, s.memory))

def dispatcher (d : Device) : Dispatcher := .ofConfig d.config

/-- Encodes a launch and submits it to the compute ring. -/
def launch (l : LaunchDescriptor) (d : Device) (m : Memory) :
    Except DriverError DispatchReceipt × Device × Memory :=
  d.dispatcher.launch sink l (d, m)

/-- Bytes in a mebibyte. -/
def mebibyte : Nat := 1024 * 1024

/-- Identity, windows and link, one line each. -/
def summary (d : Device) : String :=
  let registers := d.registers.window
  let vram := d.aperture.info
  let link := match d.link with
    | some link => link.text
    | none => "unknown"
  String.intercalate "\n" [
    s!"GPU: {d.info.name}",
    s!"Vendor: 0x{Text.upperHexField 4 d.info.vendorId.toNat}, " ++
      s!"Device: 0x{Text.upperHexField 4 d.info.deviceId.toNat}",
    s!"BAR0 (MMIO): {Text.hex registers.phys.toNat}, Size: {registers.len / mebibyte} MB",
    s!"BAR2 (VRAM): {Text.hex vram.phys.toNat}, Size: {vram.visibleBytes / mebibyte} MB",
    s!"PCIe: {link}"]

end Device

end GpuControl
