import GpuControl.Text.Hex

namespace GpuControl

open Text

/-- The vendor whose display controllers are driven. -/
def amdVendorId : UInt16 := 0x1002

/-- Base class of display controllers. -/
def displayClass : UInt8 := 3

/-- Sub-class of a VGA-compatible display controller. -/
def vgaSubclass : UInt8 := 0x00

/-- Sub-class of any other display controller. -/
def otherDisplaySubclass : UInt8 := 0x80

/-- What configuration space reads as where no function answers. -/
def absentWord : UInt32 := 0xFFFFFFFF

/-- Offset of the word with vendor (low half) and device (high half). -/
def idOffset : UInt16 := 0x00

/-- Offset of the word with revision, interface, sub-class and base class, low byte first. -/
def classOffset : UInt16 := 0x08

/-- Vendor and device of an id word. -/
def splitIdWord (word : UInt32) : UInt16 × UInt16 :=
  (word.toUInt16, (word >>> 16).toUInt16)

/-- Base class of a class word. -/
def baseClass (word : UInt32) : UInt8 := (word >>> 24).toUInt8

/-- Sub-class of a class word. -/
def subClass (word : UInt32) : UInt8 := (word >>> 16).toUInt8

/-- The chip behind a device id. -/
inductive Chip where
  | navi10
  | navi14
  | navi21
  | navi22
  | unknown (deviceId : UInt16)
deriving DecidableEq, Repr

namespace Chip

/-- The known device ids, each with its product name and chip. -/
def catalogue : List (UInt16 × String × Chip) := [
  (0x731F, "AMD Radeon RX 5700 XT (Navi10)", .navi10),
  (0x7310, "AMD Radeon RX 5700 (Navi10)", .navi10),
  (0x7340, "AMD Radeon RX 5500 XT (Navi14)", .navi14),
  (0x73BF, "AMD Radeon RX 6900 XT (Navi21)", .navi21),
  (0x73DF, "AMD Radeon RX 6700 XT (Navi22)", .navi22)]

/-- The known device ids. -/
def knownIds : List UInt16 := catalogue.map (·.1)

def ofDeviceId (id : UInt16) : Chip :=
  ((catalogue.lookup id).map (·.2)).getD (.unknown id)

/-- On-board memory in GiB; an unknown chip is taken to have 8. -/
def vramGibibytes : Chip → UInt64
  | navi10 | navi14 | unknown _ => 8
  | navi21 => 16
  | navi22 => 12

/-- On-board memory in bytes. It cannot be read through the aperture, so it goes by the chip. -/
def vramBytes (chip : Chip) : UInt64 := chip.vramGibibytes * (1024 * 1024 * 1024)

def text : Chip → String
  | navi10 => "Navi10"
  | navi14 => "Navi14"
  | navi21 => "Navi21"
  | navi22 => "Navi22"
  | unknown id => s!"Unknown({id.toNat})"

/-- The product name of a known device id. -/
def productName? (id : UInt16) : Option String :=
  (catalogue.lookup id).map (·.1)

/-- The product name, or a label that shows the id. -/
def displayName (id : UInt16) : String :=
  (productName? id).getD s!"AMD GPU (Device 0x{upperHexField 4 id.toNat})"

end Chip

end GpuControl
