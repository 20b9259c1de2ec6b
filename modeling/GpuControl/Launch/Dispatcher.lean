import GpuControl.Config.Settings
import GpuControl.Launch.Descriptor

namespace GpuControl

/-- Takes command words for rings; `σ` is whatever state its answers depend on and change. -/
structure CommandSink (σ : Type) where
  /-- Copies words into a ring and returns the ring's new write pointer. -/
  submit : UInt8 → List UInt32 → σ → Except DriverError UInt32 × σ
  /-- Announces a write pointer to the device. -/
  doorbell : UInt8 → UInt32 → σ → Except DriverError Unit × σ

/-- What a submission came to. -/
structure DispatchReceipt where
  ring : UInt8
  words : Nat
  writePtr : UInt32
deriving DecidableEq, Repr

/-- Encodes launches for one ring. -/
structure Dispatcher where
  ring : UInt8
  /-- Capacity of a stream, in words. -/
  capacity : Nat
  map : RegisterMap
deriving DecidableEq, Repr

namespace Dispatcher

def ofConfig (config : DriverConfig) : Dispatcher :=
  ⟨config.computeRing, config.maxStreamWords, config.registers⟩

/-- An empty stream of the dispatcher's capacity. -/
def stream (d : Dispatcher) : CommandStream := .new d.capacity d.map.shBase

/-- The launch in a stream of its own. -/
def encode (d : Dispatcher) (l : LaunchDescriptor) : Except DriverError CommandStream :=
  match l.encodeInto d.map d.stream with
  | (.error e, _) => .error e
  | (.ok _, s) => .ok s

/-- Fills a fresh stream by `encode`, submits its words and rings the doorbell with the pointer that
the sink returned. The sink hears of nothing that cannot be encoded in full. -/
def submitWith {σ : Type} (d : Dispatcher) (sink : CommandSink σ)
    (encode : CommandStream → Except DriverError Unit × CommandStream) (state : σ) :
    Except DriverError DispatchReceipt × σ :=
  match encode d.stream with
  | (.error e, _) => (.error e, state)
  | (.ok _, s) =>
    match sink.submit d.ring s.words state with
    | (.error e, state) => (.error e, state)
    | (.ok writePtr, state) =>
      match sink.doorbell d.ring writePtr state with
      | (.error e, state) => (.error e, state)
      | (.ok _, state) => (.ok ⟨d.ring, s.length, writePtr⟩, state)

/-- Encodes and submits one launch. -/
def launch {σ : Type} (d : Dispatcher) (sink : CommandSink σ) (l : LaunchDescriptor) (state : σ) :
    Except DriverError DispatchReceipt × σ :=
  d.submitWith sink (l.encodeInto d.map) state

end Dispatcher

end GpuControl
