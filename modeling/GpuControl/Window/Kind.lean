namespace GpuControl

/-- The three windows that a device exposes. -/
inductive WindowKind where
  /-- Memory-mapped registers. -/
  | registers
  /-- The part of video memory that the host can see. -/
  | aperture
  /-- The slots through which the host announces new write pointers. -/
  | doorbell
deriving DecidableEq, Repr

namespace WindowKind

def text : WindowKind → String
  | registers => "register"
  | aperture => "aperture"
  | doorbell => "doorbell"

/-- Index of the base address register behind the window. -/
def barIndex : WindowKind → UInt8
  | registers => 0
  | aperture => 2
  | doorbell => 5

/-- Configuration offset of the register's low word. -/
def configOffset : WindowKind → UInt16
  | registers => 0x10
  | aperture => 0x18
  | doorbell => 0x24

/-- The base takes two configuration words. -/
def is64Bit : WindowKind → Bool
  | registers | aperture => true
  | doorbell => false

/-- Bytes mapped by default. -/
def size : WindowKind → UInt64
  | registers => 16 * 1024 * 1024
  | aperture => 256 * 1024 * 1024
  | doorbell => 64 * 1024

/-- Alignment of the physical base, a power of two. -/
def alignment : WindowKind → UInt64
  | registers => 4 * 1024
  | aperture => 256 * 1024 * 1024
  | doorbell => 64 * 1024

/-- Bytes of the doorbell window that the device decodes; the rest of its mapping granule is not
the device's. -/
def doorbellDecodedSize : UInt64 := 8 * 1024

end WindowKind

end GpuControl
