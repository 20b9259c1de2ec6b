import GpuControl.Window.Mapped

namespace GpuControl

/-- The granule in which the doorbells lie. The device's own range is smaller and need not start
with it, so slots are counted from the base of that range. -/
structure DoorbellWindow where
  window : Window
  /-- Offset of the device's base in the mapped granule. -/
  barOffset : Nat
deriving DecidableEq, Repr

namespace DoorbellWindow

/-- The doorbells at `barBase` in a mapped granule, which has to contain that address. -/
def wrap (window : Window) (barBase : UInt64) : Except DriverError DoorbellWindow :=
  let offset := barBase.toNat - window.phys.toNat
  if window.phys ≤ barBase ∧ offset < window.len then .ok ⟨window, offset⟩
  else
    .error (.mappingFailed .doorbell window.phys window.len
      s!"BAR base {Text.hex barBase.toNat} outside mapped granule")

/-- Physical address of the first slot. -/
def barBase (d : DoorbellWindow) : UInt64 := d.window.phys + UInt64.ofNat d.barOffset

/-- Writes to the slot `slot` bytes from the first. -/
def ring (d : DoorbellWindow) (m : Memory) (slot : Nat) (value : UInt32) : Option Memory :=
  d.window.write32 m (slot + d.barOffset) value

end DoorbellWindow

end GpuControl
