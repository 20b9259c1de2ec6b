import GpuControl.Ring.Space
import GpuControl.Window.Registers

namespace GpuControl

/-- What the registers of a ring say about it. -/
inductive RingState where
  /-- The enable bit is clear. -/
  | disabled
  /-- Enabled, and the device has read everything written. -/
  | idle
  /-- Enabled, with commands pending. -/
  | busy
deriving DecidableEq, Repr

def RingState.text : RingState → String
  | disabled => "disabled"
  | idle => "idle"
  | busy => "busy"

/-- A ring's registers at one moment. -/
structure RingStatus where
  id : UInt8
  /-- Device address of the ring's memory. -/
  base : UInt64
  readPtr : UInt32
  writePtr : UInt32
  /-- Size in bytes. -/
  size : UInt32
  enabled : Bool
deriving DecidableEq, Repr

namespace RingStatus

def state (s : RingStatus) : RingState :=
  if !s.enabled then .disabled
  else if s.readPtr = s.writePtr then .idle
  else .busy

/-- Free bytes by the two pointers in the registers. -/
def freeBytes (s : RingStatus) (margin : UInt32) : UInt32 :=
  freeSpace s.readPtr s.writePtr s.size margin

def text (s : RingStatus) : String :=
  s!"ring {s.id.toNat}: {s.state.text} base {Text.hex s.base.toNat} " ++
    s!"size {Text.hex s.size.toNat} rptr {Text.hex s.readPtr.toNat} " ++
    s!"wptr {Text.hex s.writePtr.toNat}"

end RingStatus

/-- Refuses a ring id that has no register block. -/
def RegisterMap.checkRing (map : RegisterMap) (id : UInt8) : Except DriverError Unit :=
  if id < map.ringCount then .ok () else .error (.invalidRing id map.ringCount)

/-- Reads the register block of ring `id`. -/
def RegisterBlock.ringStatus (r : RegisterBlock) (m : Memory) (map : RegisterMap) (id : UInt8) :
    Except DriverError RingStatus :=
  match map.checkRing id with
  | .error e => .error e
  | .ok _ =>
    let block := map.ringBlock id
    .ok {
      id := id
      base := r.read64 m (block + map.ring.base)
      readPtr := r.read32 m (block + map.ring.rptr)
      writePtr := r.read32 m (block + map.ring.wptr)
      size := r.read32 m (block + map.ring.size)
      enabled := r.read32 m (block + map.ring.cntl) &&& map.ring.enableBit != 0 }

end GpuControl
