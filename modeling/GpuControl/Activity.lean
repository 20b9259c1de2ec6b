import GpuControl.Config.RegisterMap
import GpuControl.Window.Registers

namespace GpuControl

/-- The primary status register. -/
structure GpuStatus where
  word : UInt32
deriving DecidableEq, Repr

namespace GpuStatus

/-- Some graphics or compute block is active. -/
def guiActive (s : GpuStatus) : Bool := s.word &&& 0x80000000 != 0

/-- The colour backend is busy. -/
def cbBusy (s : GpuStatus) : Bool := s.word &&& 0x40000000 != 0

/-- The command processor is busy. -/
def cpBusy (s : GpuStatus) : Bool := s.word &&& 0x20000000 != 0

/-- All ones: reads do not reach the device. -/
def isSentinel (s : GpuStatus) : Bool := s.word == sentinel

def text (s : GpuStatus) : String :=
  s!"{Text.hexPadded 8 s.word.toNat} (GUI_ACTIVE={s.guiActive.toNat} " ++
    s!"CB_BUSY={s.cbBusy.toNat} CP_BUSY={s.cpBusy.toNat})"

end GpuStatus

/-- How much compute work is in flight. -/
structure ComputeActivity where
  /-- Compute units with work. -/
  computeUnits : UInt8
  wavefronts : UInt8
  /-- In percent: all or nothing. -/
  utilization : UInt8
deriving DecidableEq, Repr

/-- A finished wait. -/
structure IdleWait where
  /-- Pauses taken before the device was idle. -/
  polls : Nat
  elapsedNanoseconds : Nat
deriving DecidableEq, Repr

/-- One look at the status register during a wait. -/
structure StatusSample where
  elapsedNanoseconds : Nat
  status : GpuStatus
deriving DecidableEq, Repr

/-- How a wait ends after the given looks, the first of them taken after `polls` pauses: with the
first idle one, or with the first that comes at or after a timeout other than zero. Nothing if the
wait goes on. -/
def IdleWait.decideFrom (timeoutNanoseconds : Nat) :
    Nat → List StatusSample → Option (Except DriverError IdleWait)
  | _, [] => none
  | polls, sample :: samples =>
    if !sample.status.guiActive then some (.ok ⟨polls, sample.elapsedNanoseconds⟩)
    else if timeoutNanoseconds ≠ 0 ∧ timeoutNanoseconds ≤ sample.elapsedNanoseconds then
      some (.error (.ofTimeout timeoutNanoseconds))
    else decideFrom timeoutNanoseconds (polls + 1) samples

namespace RegisterBlock

def status (r : RegisterBlock) (m : Memory) (map : RegisterMap) : GpuStatus :=
  ⟨r.read32 m map.status⟩

def status2 (r : RegisterBlock) (m : Memory) (map : RegisterMap) : UInt32 := r.read32 m map.status2

def isIdle (r : RegisterBlock) (m : Memory) (map : RegisterMap) : Bool :=
  !(r.status m map).guiActive

/-- The compute work that the two status registers tell of. -/
def computeActivity (r : RegisterBlock) (m : Memory) (map : RegisterMap) : ComputeActivity where
  computeUnits := (r.status2 m map >>> 8).toUInt8
  wavefronts := (r.status2 m map >>> 16).toUInt8
  utilization := if (r.status m map).guiActive then 100 else 0

/-- A wait during which nothing changes the registers: the first look decides it, or the timeout
does. Without a timeout a busy device is waited for without end. -/
def waitForIdle (r : RegisterBlock) (m : Memory) (map : RegisterMap) (timeoutNanoseconds : Nat) :
    Option (Except DriverError IdleWait) :=
  let status := r.status m map
  IdleWait.decideFrom timeoutNanoseconds 0 [⟨0, status⟩, ⟨timeoutNanoseconds, status⟩]

/-- Sets every bit of the reset register and clears them again. -/
def softReset (r : RegisterBlock) (m : Memory) (map : RegisterMap) : Memory :=
  r.write32 (r.write32 m map.softReset 0xFFFFFFFF) map.softReset 0

end RegisterBlock

end GpuControl
