import GpuControl.Config.Settings

namespace GpuControl

/-- Byte offset in a ring of `size` bytes to which a dword pointer leads; the ring is not empty. -/
def ringOffset (ptr size : UInt32) : UInt32 := (ptr.toUInt64 * 4 % size.toUInt64).toUInt32

/-- Bytes from the read to the write pointer, around the end of the ring if need be. Pointers count
dwords and may run past that end; the size counts bytes. -/
def usedSpace (readPtr writePtr size : UInt32) : UInt32 :=
  let r := ringOffset readPtr size
  let w := ringOffset writePtr size
  if r ≤ w then w - r else size - r + w

/-- The difference, or zero where it would be negative. -/
def saturatingSub (a b : UInt32) : UInt32 := if b ≤ a then a - b else 0

/-- Bytes that may be written without the write pointer catching up with the read pointer from
behind; at least one dword always stays free. -/
def freeSpace (readPtr writePtr size margin : UInt32) : UInt32 :=
  if size = 0 then 0
  else saturatingSub (saturatingSub size (usedSpace readPtr writePtr size)) (atLeastOneDword margin)

end GpuControl
