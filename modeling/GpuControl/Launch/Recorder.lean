import GpuControl.Launch.Dispatcher

namespace GpuControl

/-- A destination without a device, which records what it is given. Its pointer counts words and
never wraps around a ring. -/
structure Recorder where
  pointer : UInt32 := 0
  /-- Rings and words submitted, in order. -/
  submits : List (UInt8 × List UInt32) := []
  /-- Rings and pointers announced, in order. -/
  doorbells : List (UInt8 × UInt32) := []
deriving DecidableEq, Repr

namespace Recorder

/-- The recording sink. It is full as long as exactly `fullAt` submissions are recorded, and with
`mute` it takes no doorbell. -/
def sink (fullAt : Option Nat) (mute : Bool) : CommandSink Recorder where
  submit := fun ring words r =>
    if fullAt = some r.submits.length then (.error (.ringFull ring (4 * words.length) 0), r)
    else
      let pointer := r.pointer + UInt32.ofNat words.length
      (.ok pointer, { r with pointer, submits := r.submits ++ [(ring, words)] })
  doorbell := fun ring pointer r =>
    if mute then (.error (.invalidRing ring 0), r)
    else (.ok (), { r with doorbells := r.doorbells ++ [(ring, pointer)] })

end Recorder

end GpuControl
