namespace GpuControl

/-- Offsets inside the register block of one ring, and the enable bit of its control word. -/
structure RingLayout where
  cntl : Nat := 0x04
  /-- Read pointer, in dwords, owned by the device. -/
  rptr : Nat := 0x08
  /-- Write pointer, in dwords, owned by the host. -/
  wptr : Nat := 0x0C
  /-- Size in bytes. -/
  size : Nat := 0x10
  /-- Base address, 64 bits. -/
  base : Nat := 0x18
  enableBit : UInt32 := 1
deriving DecidableEq, Repr

/-- Offsets of the registers that a compute launch writes. -/
structure ComputeLayout where
  /-- Program address, low word; the high word follows. -/
  pgmLo : Nat := 0x2E30
  /-- First resource word; the second follows. -/
  pgmRsrc1 : Nat := 0x2E48
  /-- Threads per group in x; y and z follow. -/
  numThreadX : Nat := 0x2E1C
  /-- First user word; the argument pointer takes two. -/
  userData0 : Nat := 0x2F00
deriving DecidableEq, Repr

/-- Byte offsets into the register window. Everything above the windows takes its offsets from here,
so a generation of chips is a value of this type. -/
structure RegisterMap where
  /-- Base of the shader registers, index 0 of a register-write packet. -/
  shBase : Nat := 0x2C00
  status : Nat := 0x8010
  status2 : Nat := 0x8014
  softReset : Nat := 0x8020
  /-- Block of ring 0. -/
  ringBase : Nat := 0xC100
  /-- Distance between the blocks of consecutive rings. -/
  ringStride : Nat := 0x100
  ringCount : UInt8 := 8
  ring : RingLayout := {}
  /-- Distance between the doorbell slots of consecutive rings. -/
  doorbellStride : Nat := 4
  compute : ComputeLayout := {}
deriving DecidableEq, Repr

namespace RegisterMap

/-- The layout of the known chips. -/
def gfx10 : RegisterMap := {}

/-- Offset of the register block of ring `id`. -/
def ringBlock (map : RegisterMap) (id : UInt8) : Nat := map.ringBase + id.toNat * map.ringStride

end RegisterMap

/-- The ring that carries graphics work. -/
def graphicsRing : UInt8 := 0

/-- The ring that carries compute launches unless configured otherwise. -/
def defaultComputeRing : UInt8 := 1

/-- Registers of the compute block, in their order in the window. -/
inductive ComputeRegister where
  | dispatchInitiator
  | dimX
  | startX
  | numThreadX
  | numThreadY
  | numThreadZ
  | pgmLo
  | pgmHi
  | pgmRsrc1
  | pgmRsrc2
  | resourceLimits
  | tmpringSize
  | userData0
deriving DecidableEq, Repr

namespace ComputeRegister

/-- Position in the block, in dwords. -/
def index : ComputeRegister → Nat
  | dispatchInitiator => 0x00
  | dimX => 0x01
  | startX => 0x04
  | numThreadX => 0x07
  | numThreadY => 0x08
  | numThreadZ => 0x09
  | pgmLo => 0x0C
  | pgmHi => 0x0D
  | pgmRsrc1 => 0x12
  | pgmRsrc2 => 0x13
  | resourceLimits => 0x15
  | tmpringSize => 0x18
  | userData0 => 0x40

/-- Byte offset into the register window. -/
def offset (r : ComputeRegister) : Nat := 0x2E00 + 4 * r.index

def all : List ComputeRegister := [dispatchInitiator, dimX, startX, numThreadX, numThreadY,
  numThreadZ, pgmLo, pgmHi, pgmRsrc1, pgmRsrc2, resourceLimits, tmpringSize, userData0]

/-- Words of user data that a launch can preload. -/
def userDataCount : Nat := 16

end ComputeRegister

end GpuControl
