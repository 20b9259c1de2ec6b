import GpuControl.Bar
import GpuControl.Memory.Store

namespace GpuControl

/-- Physical memory handed out by a platform: where it was asked for, where its first byte is and
how many bytes there are. -/
structure Mapping where
  phys : UInt64
  start : Cell
  len : Nat
deriving DecidableEq, Repr

/-- A mapping in its role as one of a device's windows. Accesses are checked against its length,
word accesses against their alignment too, and one that is refused touches nothing. -/
structure Window where
  kind : WindowKind
  /-- Physical base of the window. -/
  phys : UInt64
  mapping : Mapping
deriving DecidableEq, Repr

namespace Window

/-- Refuses a base that breaks the alignment rule of the window. -/
def checkAlignment (kind : WindowKind) (phys : UInt64) : Except DriverError Unit :=
  if isAligned phys kind.alignment then .ok ()
  else .error (.alignmentViolation kind.text phys kind.alignment)

/-- A window over a mapping, which must not be empty. -/
def wrap (kind : WindowKind) (phys : UInt64) (mapping : Mapping) : Except DriverError Window :=
  match checkAlignment kind phys with
  | .error e => .error e
  | .ok _ =>
    if mapping.len = 0 then .error (.mappingFailed kind phys 0 "empty mapping")
    else .ok ⟨kind, phys, mapping⟩

def len (w : Window) : Nat := w.mapping.len

def isEmpty (w : Window) : Bool := w.len == 0

/-- The `len` bytes from `offset` on lie inside the window. -/
def Contains (w : Window) (offset len : Nat) : Prop := offset + len ≤ w.len

instance (w : Window) (offset len : Nat) : Decidable (w.Contains offset len) :=
  inferInstanceAs (Decidable (_ ≤ _))

/-- A word of `width` bytes at `offset` is aligned and inside the window. -/
def Admits (w : Window) (offset width : Nat) : Prop := offset % width = 0 ∧ w.Contains offset width

instance (w : Window) (offset width : Nat) : Decidable (w.Admits offset width) :=
  inferInstanceAs (Decidable (_ ∧ _))

/-- The place of the byte at `offset`. -/
def cell (w : Window) (offset : Nat) : Cell := w.mapping.start.advance offset

def read32 (w : Window) (m : Memory) (offset : Nat) : Option UInt32 :=
  if w.Admits offset 4 then some (m.loadDword (w.cell offset)) else none

def write32 (w : Window) (m : Memory) (offset : Nat) (value : UInt32) : Option Memory :=
  if w.Admits offset 4 then some (m.storeDword (w.cell offset) value) else none

def read64 (w : Window) (m : Memory) (offset : Nat) : Option UInt64 :=
  if w.Admits offset 8 then some (m.loadQword (w.cell offset)) else none

def write64 (w : Window) (m : Memory) (offset : Nat) (value : UInt64) : Option Memory :=
  if w.Admits offset 8 then some (m.storeQword (w.cell offset) value) else none

/-- The bytes of a range, which also serves as a view of it. -/
def readBytes (w : Window) (m : Memory) (offset len : Nat) : Option (List UInt8) :=
  if w.Contains offset len then some (m.load (w.cell offset) len) else none

def writeBytes (w : Window) (m : Memory) (offset : Nat) (bytes : List UInt8) : Option Memory :=
  if w.Contains offset bytes.length then some (m.store (w.cell offset) bytes) else none

/-- Opens a view of a range and puts bytes at its start, as many as the view holds. -/
def updateView (w : Window) (m : Memory) (offset len : Nat) (bytes : List UInt8) :
    Option (List UInt8 × Memory) :=
  if w.Contains offset len then
    some (m.load (w.cell offset) len, m.store (w.cell offset) (bytes.take len))
  else none

end Window

end GpuControl
