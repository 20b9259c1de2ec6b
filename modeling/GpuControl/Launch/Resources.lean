namespace GpuControl

/-- What a compute program asks of the hardware: the fields of its two resource words. -/
structure ResourceDescriptor where
  /-- Vector registers, in blocks. -/
  vgprBlocks : UInt8 := 8
  /-- Scalar registers, in blocks. -/
  sgprBlocks : UInt8 := 8
  /-- Wave priority. -/
  priority : UInt8 := 0
  /-- Rounding and denormal mode of floats. -/
  floatMode : UInt8 := 0
  /-- Further mode flags. -/
  mode : UInt8 := 0xC0
  /-- Run on a pair of compute units. -/
  wgpMode : Bool := true
  /-- Use scratch memory. -/
  scratch : Bool := false
  /-- Scalar registers preloaded with user data. -/
  userSgprs : UInt8 := 8
  /-- Deliver the group id in x, y and z. -/
  tgidX : Bool := true
  tgidY : Bool := true
  tgidZ : Bool := true
  /-- Local memory, in blocks. -/
  ldsBlocks : UInt16 := 0
deriving DecidableEq, Repr

namespace ResourceDescriptor

/-- The bits of `value` inside `mask`, moved up to bit `shift`. -/
def field (value mask shift : UInt32) : UInt32 := (value &&& mask) <<< shift

/-- A single bit, set or clear. -/
def flag (set : Bool) (bit : UInt32) : UInt32 := if set then 1 <<< bit else 0

/-- The first resource word: six bits of vector registers, four of scalar ones and two of priority
from bit 0 on, eight of float mode from bit 12, eight of mode flags from bit 20, and the workgroup
mode in bit 29. Bits of a field beyond its width are dropped. -/
def rsrc1 (r : ResourceDescriptor) : UInt32 :=
  field r.vgprBlocks.toUInt32 0x3F 0 ||| field r.sgprBlocks.toUInt32 0xF 6 |||
    field r.priority.toUInt32 0x3 10 ||| field r.floatMode.toUInt32 0xFF 12 |||
    field r.mode.toUInt32 0xFF 20 ||| flag r.wgpMode 29

/-- The second resource word: scratch memory in bit 0, five bits of user registers from bit 1, the
group ids in bits 10 to 12 and nine bits of local memory from bit 15. Bits of a field beyond its
width are dropped. -/
def rsrc2 (r : ResourceDescriptor) : UInt32 :=
  field r.userSgprs.toUInt32 0x1F 1 ||| field r.ldsBlocks.toUInt32 0x1FF 15 |||
    flag r.scratch 0 ||| flag r.tgidX 10 ||| flag r.tgidY 11 ||| flag r.tgidZ 12

end ResourceDescriptor

end GpuControl
