import GpuControl.Window.Mapped

namespace GpuControl

/-- The part of video memory that the host can see. Device addresses start at 0 with its first byte,
so an offset is a device address. -/
structure Aperture where
  window : Window
  /-- Video memory on the board, seen or not. -/
  totalBytes : UInt64
deriving DecidableEq, Repr

/-- Video memory as the host sees it. -/
structure VramInfo where
  totalBytes : UInt64
  visibleBytes : Nat
  /-- Device address of the first visible byte. -/
  base : UInt64
  /-- Physical address of the first visible byte. -/
  phys : UInt64
deriving DecidableEq, Repr

namespace Aperture

def visibleLen (a : Aperture) : Nat := a.window.len

def info (a : Aperture) : VramInfo := ⟨a.totalBytes, a.visibleLen, 0, a.window.phys⟩

/-- The `len` bytes from device address `offset` on are visible. -/
def Contains (a : Aperture) (offset len : Nat) : Prop := a.window.Contains offset len

instance (a : Aperture) (offset len : Nat) : Decidable (a.Contains offset len) :=
  inferInstanceAs (Decidable (a.window.Contains offset len))

def read (a : Aperture) (m : Memory) (offset len : Nat) : Option (List UInt8) :=
  a.window.readBytes m offset len

/-- Writes all bytes or none and returns their number. -/
def write (a : Aperture) (m : Memory) (offset : Nat) (bytes : List UInt8) : Nat × Memory :=
  match a.window.writeBytes m offset bytes with
  | none => (0, m)
  | some m => (bytes.length, m)

def updateView (a : Aperture) (m : Memory) (offset len : Nat) (bytes : List UInt8) :
    Option (List UInt8 × Memory) :=
  a.window.updateView m offset len bytes

/-- Writes numbers of `width` bytes each and returns how many of them. -/
def writeNumbers (a : Aperture) (m : Memory) (width offset : Nat) (values : List Nat) :
    Nat × Memory :=
  let (count, m) := a.write m offset (values.flatMap (LittleEndian.encode width))
  (count / width, m)

/-- Cuts bytes into numbers of `width` bytes each. -/
def numbers (width : Nat) (bytes : List UInt8) : List Nat :=
  (List.range (bytes.length / width)).map fun i =>
    LittleEndian.decode ((bytes.drop (i * width)).take width)

/-- Reads `count` numbers of `width` bytes each. -/
def readNumbers (a : Aperture) (m : Memory) (width offset count : Nat) : Option (List Nat) :=
  (a.read m offset (count * width)).map (numbers width)

/-- Copies words into the ring of `ringLen` bytes at `ringBase`, from byte `offset` of the ring on;
what does not fit before the ring's end goes to its start. -/
def writeRing (a : Aperture) (m : Memory) (ringBase ringLen offset : Nat) (words : List UInt32) :
    Bool × Memory :=
  let bytes := LittleEndian.dwords words
  let head := bytes.take (ringLen - offset)
  let tail := bytes.drop (ringLen - offset)
  let (count, m) := a.write m (ringBase + offset) head
  if count ≠ head.length then (false, m)
  else if tail.isEmpty then (true, m)
  else
    let (count, m) := a.write m ringBase tail
    (count == tail.length, m)

end Aperture

end GpuControl
