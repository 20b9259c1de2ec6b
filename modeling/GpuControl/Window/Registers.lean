import GpuControl.Window.Mapped

namespace GpuControl

/-- What a read returns where nothing answers. -/
def sentinel : UInt32 := 0xFFFFFFFF

/-- The window with the registers. A read that it refuses returns all ones, as a device that does
not answer would, and a refused write is dropped. -/
structure RegisterBlock where
  window : Window
deriving DecidableEq, Repr

namespace RegisterBlock

def read32 (r : RegisterBlock) (m : Memory) (offset : Nat) : UInt32 :=
  (r.window.read32 m offset).getD sentinel

def write32 (r : RegisterBlock) (m : Memory) (offset : Nat) (value : UInt32) : Memory :=
  (r.window.write32 m offset value).getD m

def read64 (r : RegisterBlock) (m : Memory) (offset : Nat) : UInt64 :=
  (r.window.read64 m offset).getD 0xFFFFFFFFFFFFFFFF

def write64 (r : RegisterBlock) (m : Memory) (offset : Nat) (value : UInt64) : Memory :=
  (r.window.write64 m offset value).getD m

/-- The bits of `mask` take those of `value`, the others are kept. -/
def modify (r : RegisterBlock) (m : Memory) (offset : Nat) (mask value : UInt32) : Memory :=
  let old := r.read32 m offset
  r.write32 m offset ((old &&& ~~~mask) ||| (value &&& mask))

end RegisterBlock

end GpuControl
