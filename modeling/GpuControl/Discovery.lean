import GpuControl.Bar
import GpuControl.Pci.Identity
import GpuControl.Platform.Interface

namespace GpuControl

/-- A function that answers on the bus. -/
structure PciDevice where
  address : PciAddress
  vendorId : UInt16
  deviceId : UInt16
  /-- Class and revision, undecoded. -/
  classWord : UInt32
  name : String
deriving DecidableEq, Repr

namespace PciDevice

def chip (d : PciDevice) : Chip := .ofDeviceId d.deviceId

/-- On-board memory by the table of chips. -/
def vramBytes (d : PciDevice) : UInt64 := d.chip.vramBytes

/-- The vendor's display controllers are those that a scan takes. -/
def isAmdDisplay (d : PciDevice) : Bool :=
  d.vendorId == amdVendorId && baseClass d.classWord == displayClass

def text (d : PciDevice) : String :=
  s!"{d.address.text} [{Text.hexField 4 d.vendorId.toNat}:{Text.hexField 4 d.deviceId.toNat}] " ++
    d.name

end PciDevice

/-- Which device to take. -/
inductive DeviceSelector where
  /-- The first display controller in bus and device order. -/
  | first
  /-- Whatever answers at a place. -/
  | at (bus device : UInt8)
deriving DecidableEq, Repr

/-- A place has to be given in full; otherwise the first device is meant. -/
def DeviceSelector.ofLocation (bus device : Option UInt8) : DeviceSelector :=
  match bus, device with
  | some bus, some device => .at bus device
  | _, _ => .first

namespace Platform

variable {σ : Type} (p : Platform σ) (s : σ)

/-- A configuration word, with a failure told as the driver tells it. -/
def configWord (addr : PciAddress) (offset : UInt16) : Except DriverError UInt32 :=
  (p.readConfig s addr offset).mapError fun e => .configRead addr.text offset e.text

/-- What answers at an address. An id word of all ones or of zeros is nobody's. -/
def identify (addr : PciAddress) : Except DriverError (Option PciDevice) :=
  match p.configWord s addr idOffset with
  | .error e => .error e
  | .ok idWord =>
    if idWord = absentWord ∨ idWord = 0 then .ok none
    else
      let (vendorId, deviceId) := splitIdWord idWord
      (p.configWord s addr classOffset).map fun classWord =>
        some ⟨addr, vendorId, deviceId, classWord, Chip.displayName deviceId⟩

/-- The display controller at an address; a place that cannot be read holds none. -/
def controllerAt? (addr : PciAddress) : Option PciDevice :=
  match p.identify s addr with
  | .ok (some device) => if device.isAmdDisplay then some device else none
  | _ => none

/-- All display controllers, in bus and device order. -/
def enumerate : List PciDevice := PciAddress.slots.filterMap (p.controllerAt? s)

/-- The first display controller. -/
def scanFirst : Except DriverError PciDevice :=
  match PciAddress.slots.findSome? (p.controllerAt? s) with
  | some device => .ok device
  | none => .error .notFound

/-- The device that a selector names. -/
def select : DeviceSelector → Except DriverError PciDevice
  | .first => p.scanFirst s
  | .at bus device =>
    match p.identify s ⟨bus, device, 0⟩ with
    | .error e => .error e
    | .ok none => .error (.deviceNotFound (some bus) (some device))
    | .ok (some found) => .ok found

/-- Reads the base address register behind a window, the low word first. -/
def readBar (addr : PciAddress) (kind : WindowKind) : Except DriverError Bar :=
  match p.configWord s addr kind.configOffset with
  | .error e => .error e
  | .ok low =>
    if kind.is64Bit then
      (p.configWord s addr (kind.configOffset + 4)).map fun high => .decode kind low (some high)
    else .ok (.decode kind low none)

end Platform

end GpuControl
