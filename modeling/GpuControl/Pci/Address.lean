import GpuControl.Text.Hex

namespace GpuControl

open Text

/-- One function of one device on one bus. -/
structure PciAddress where
  bus : UInt8
  device : UInt8
  function : UInt8 := 0
deriving DecidableEq, Repr, Hashable, Inhabited

namespace PciAddress

/-- Bus, device and function as one number, so that addresses are ordered by bus first. -/
def rank (a : PciAddress) : Nat :=
  (a.bus.toNat * UInt8.size + a.device.toNat) * UInt8.size + a.function.toNat

/-- The short form `bb:dd.f`. -/
def text (a : PciAddress) : String :=
  s!"{hexField 2 a.bus.toNat}:{hexField 2 a.device.toNat}.{a.function.toNat}"

/-- The name of the function's directory in the device tree: the short form in domain 0. -/
def treeName (a : PciAddress) : String := "0000:" ++ a.text

/-- Devices on one bus. -/
def devicesPerBus : Nat := 32

/-- The highest bus number. -/
def maxBus : UInt8 := 255

/-- The places where a scan looks: function 0 of every device of every bus, in ascending order. -/
def slots : List PciAddress :=
  (List.range (maxBus.toNat + 1)).flatMap fun bus =>
    (List.range devicesPerBus).map fun device => ⟨UInt8.ofNat bus, UInt8.ofNat device, 0⟩

/-- The addresses in ascending order. -/
def sort (addresses : List PciAddress) : List PciAddress :=
  addresses.mergeSort fun a b => a.rank ≤ b.rank

end PciAddress

end GpuControl
