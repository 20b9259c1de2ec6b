import GpuControl.Config.RegisterMap

namespace GpuControl

/-- Reads and writes of words by physical address, from outside the driver: how a device, or whoever
plays its part, changes its registers. They work on a state `σ` and can fail. -/
structure WordAccess (σ ε : Type) where
  peek32 : σ → UInt64 → Except ε UInt32
  poke32 : σ → UInt64 → UInt32 → Except ε Unit × σ
  poke64 : σ → UInt64 → UInt64 → Except ε Unit × σ

namespace WordAccess

variable {σ ε : Type}

/-- Reads `count` consecutive dwords. -/
def peekWords (a : WordAccess σ ε) (s : σ) (phys : UInt64) (count : Nat) :
    Except ε (List UInt32) :=
  (List.range count).mapM fun i => a.peek32 s (phys + UInt64.ofNat i * 4)

/-- Writes dwords one after the other up to the first that cannot be written. -/
def pokeAll (a : WordAccess σ ε) (s : σ) : List (UInt64 × UInt32) → Except ε Unit × σ
  | [] => (.ok (), s)
  | (phys, value) :: rest =>
    match a.poke32 s phys value with
    | (.error e, s) => (.error e, s)
    | (.ok _, s) => a.pokeAll s rest

/-- Writes the register block of ring `id` as the device would show it, with the register window at
`registers`: control word, pointers, size and base in the layout of the known chips. The blocks
follow one another without end, so `id` need not be a ring that the device has. -/
def programRing (a : WordAccess σ ε) (s : σ) (registers id : UInt64)
    (cntl readPtr writePtr size : UInt32) (base : UInt64) : Except ε Unit × σ :=
  let map := RegisterMap.gfx10
  let block := registers + UInt64.ofNat map.ringBase + id * UInt64.ofNat map.ringStride
  let place (offset : Nat) : UInt64 := block + UInt64.ofNat offset
  a.pokeAll s [
    (place map.ring.cntl, cntl), (place map.ring.rptr, readPtr), (place map.ring.wptr, writePtr),
    (place map.ring.size, size), (place map.ring.base, base.toUInt32),
    (place (map.ring.base + 4), (base >>> 32).toUInt32)]

end WordAccess

end GpuControl
