import GpuControl.Error

namespace GpuControl

/-- The address is a multiple of the alignment, a power of two. -/
def isAligned (address alignment : UInt64) : Bool := address &&& (alignment - 1) == 0

/-- The address rounded down to the alignment, a power of two. -/
def alignDown (address alignment : UInt64) : UInt64 := address &&& ~~~(alignment - 1)

/-- A base address register, read and decoded: the low four bits are flags, and the rest is the
physical base of a window. -/
structure Bar where
  kind : WindowKind
  /-- Both words of a 64-bit register, the one word of any other. -/
  raw : UInt64
  /-- Physical base, without the flags. -/
  base : UInt64
deriving DecidableEq, Repr

namespace Bar

/-- The flag bits of a memory register. -/
def flagMask : UInt64 := 0xF

/-- The two words as one; a missing high word counts as zero. -/
def joinWords (low : UInt32) (high : Option UInt32) : UInt64 :=
  (high.getD 0).toUInt64 <<< 32 ||| low.toUInt64

/-- Physical base held by the register's words. -/
def address (low : UInt32) (high : Option UInt32) : UInt64 :=
  joinWords low high &&& ~~~flagMask

def decode (kind : WindowKind) (low : UInt32) (high : Option UInt32) : Bar :=
  ⟨kind, joinWords low high, address low high⟩

/-- The base is aligned as its window asks. -/
def isAligned (b : Bar) : Bool := GpuControl.isAligned b.base b.kind.alignment

/-- The base from which the window is mapped: the register's own if it is aligned, else rounded
down to the window's alignment, or refused where `strict` is set. -/
def mapBase (b : Bar) (strict : Bool) : Except DriverError UInt64 :=
  if b.isAligned then .ok b.base
  else if strict then .error (.alignmentViolation b.kind.text b.base b.kind.alignment)
  else .ok (alignDown b.base b.kind.alignment)

end Bar

end GpuControl
