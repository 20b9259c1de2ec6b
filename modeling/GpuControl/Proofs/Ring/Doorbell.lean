import GpuControl.Proofs.Ring.Submit

namespace GpuControl

namespace RingAccess

/-- No byte lies in two of the windows. -/
structure WindowsDisjoint (rings : RingAccess) : Prop where
  registers_aperture : rings.registers.window.Disjoint rings.aperture.window
  doorbell_registers : ∀ d, rings.doorbell = some d → d.window.Disjoint rings.registers.window
  doorbell_aperture : ∀ d, rings.doorbell = some d → d.window.Disjoint rings.aperture.window

/-- Offset of a ring's write pointer register. -/
def wptrOffset (rings : RingAccess) (id : UInt8) : Nat :=
  rings.map.ringBlock id + rings.map.ring.wptr

/-- Offset of a ring's slot in the doorbell window. -/
def slotOffset (rings : RingAccess) (id : UInt8) (d : DoorbellWindow) : Nat :=
  id.toNat * rings.map.doorbellStride + d.barOffset

/-- Memory after a write pointer was announced. -/
def announced (rings : RingAccess) (id : UInt8) (ptr : UInt32) (m : Memory) : Memory :=
  let m := rings.registers.write32 m (rings.wptrOffset id) ptr
  match rings.doorbell with
  | none => m
  | some d => d.window.write32OrDrop m (rings.slotOffset id d) ptr

variable {rings : RingAccess} {id : UInt8} {ptr : UInt32} {s : RingMemory} {status : RingStatus}

/-- Ringing the doorbell of a ring that exists announces the pointer and makes it the host's. -/
theorem ringDoorbell_of_lt (ptr : UInt32) (s : RingMemory) (hid : id < rings.map.ringCount) :
    rings.ringDoorbell id ptr s =
      (.ok (), ⟨rings.announced id ptr s.memory, s.pointers.set id ptr⟩) := by
  simp only [ringDoorbell, checkRing_eq_ok_iff.2 hid]
  rfl

/-- The doorbell of a ring that does not exist is refused, and nothing is written. -/
theorem ringDoorbell_of_le (ptr : UInt32) (s : RingMemory) (hid : rings.map.ringCount ≤ id) :
    rings.ringDoorbell id ptr s = (.error (.invalidRing id rings.map.ringCount), s) := by
  simp only [ringDoorbell, checkRing_eq_error hid]

/-- Announcing a pointer writes nothing in the aperture. -/
theorem sameBytes_announced_aperture (hdisjoint : rings.WindowsDisjoint) (id : UInt8)
    (ptr : UInt32) (m : Memory) :
    rings.aperture.window.SameBytes m (rings.announced id ptr m) := by
  have hregister : rings.aperture.window.SameBytes m
      (rings.registers.write32 m (rings.wptrOffset id) ptr) :=
    Window.sameBytes_write32OrDrop hdisjoint.registers_aperture m _ _
  unfold announced
  split
  case h_1 => exact hregister
  case h_2 d hd =>
    exact hregister.trans (Window.sameBytes_write32OrDrop (hdisjoint.doorbell_aperture d hd) _ _ _)

/-- Of the register window, announcing a pointer changes no more than the store to the register
does. -/
theorem sameBytes_announced_registers
    (hdisjoint : ∀ d, rings.doorbell = some d → d.window.Disjoint rings.registers.window)
    (id : UInt8) (ptr : UInt32) (m : Memory) :
    rings.registers.window.SameBytes (rings.registers.write32 m (rings.wptrOffset id) ptr)
      (rings.announced id ptr m) := by
  unfold announced
  split
  case h_1 => exact .refl _ _
  case h_2 d hd => exact Window.sameBytes_write32OrDrop (hdisjoint d hd) _ _ _

/-- After an announcement, the register reads as the pointer. -/
theorem read32_announced_register (hdisjoint : rings.WindowsDisjoint)
    (hadmits : rings.registers.window.Admits (rings.wptrOffset id) 4) (ptr : UInt32) (m : Memory) :
    rings.registers.window.read32 (rings.announced id ptr m) (rings.wptrOffset id) = some ptr := by
  rw [Window.read32_congr (sameBytes_announced_registers hdisjoint.doorbell_registers id ptr m),
    RegisterBlock.write32_eq, Window.read32_write32OrDrop hadmits]

/-- So does the ring's slot, if there is a doorbell window. -/
theorem read32_announced_slot {d : DoorbellWindow} (hd : rings.doorbell = some d)
    (hadmits : d.window.Admits (rings.slotOffset id d) 4) (ptr : UInt32) (m : Memory) :
    d.window.read32 (rings.announced id ptr m) (rings.slotOffset id d) = some ptr := by
  simp only [announced, hd]
  exact Window.read32_write32OrDrop hadmits _ _

/-- The register takes the pointer and the other registers keep their values, also where the block
does not reach the register. -/
theorem takes_announced_registers
    (hdisjoint : ∀ d, rings.doorbell = some d → d.window.Disjoint rings.registers.window)
    (haligned : rings.wptrOffset id % 4 = 0) (ptr : UInt32) (m : Memory) :
    rings.registers.window.Takes (rings.wptrOffset id) ptr m (rings.announced id ptr m) :=
  (Window.takes_write32OrDrop haligned m ptr).of_sameBytes (.refl _ m)
    (sameBytes_announced_registers hdisjoint id ptr m)

/-- The doorbell window takes the pointer in the ring's slot and keeps its other bytes. -/
theorem takes_announced_slot {d : DoorbellWindow} (hd : rings.doorbell = some d)
    (hdisjoint : d.window.Disjoint rings.registers.window)
    (haligned : rings.slotOffset id d % 4 = 0) (ptr : UInt32) (m : Memory) :
    d.window.Takes (rings.slotOffset id d) ptr m (rings.announced id ptr m) := by
  simp only [announced, hd]
  exact (Window.takes_write32OrDrop haligned _ ptr).of_sameBytes
    (Window.sameBytes_write32OrDrop hdisjoint.symm m _ ptr) (.refl _ _)

/-- An announcement leaves every byte alone but those of the register and of the slot. -/
theorem byte_announced {c : Cell} (ptr : UInt32) (m : Memory)
    (hregister : rings.registers.window.Admits (rings.wptrOffset id) 4 →
      ¬c.Within (rings.registers.window.cell (rings.wptrOffset id)) 4)
    (hslot : ∀ d, rings.doorbell = some d → d.window.Admits (rings.slotOffset id d) 4 →
      ¬c.Within (d.window.cell (rings.slotOffset id d)) 4) :
    (rings.announced id ptr m).byte c = m.byte c := by
  unfold announced
  split
  case h_1 => exact Window.byte_write32OrDrop m ptr hregister
  case h_2 d hd =>
    rw [Window.byte_write32OrDrop _ ptr (hslot d hd)]
    exact Window.byte_write32OrDrop m ptr hregister

/-- Where two memories hold the same byte, they do so after the same announcement. -/
theorem byte_announced_congr {m m' : Memory} {c : Cell} (id : UInt8) (ptr : UInt32)
    (hbyte : m'.byte c = m.byte c) :
    (rings.announced id ptr m').byte c = (rings.announced id ptr m).byte c := by
  unfold announced
  split
  case h_1 => exact Window.byte_write32OrDrop_congr _ _ ptr hbyte
  case h_2 d hd =>
    exact Window.byte_write32OrDrop_congr _ _ ptr (Window.byte_write32OrDrop_congr _ _ ptr hbyte)

theorem status_congr {s' : RingMemory} (id : UInt8)
    (hsame : rings.registers.window.SameBytes s.memory s'.memory) :
    rings.status s' id = rings.status s id := by
  simp only [RingAccess.status, RegisterBlock.ringStatus, RegisterBlock.read32_congr hsame,
    RegisterBlock.read64_congr hsame]

/-- No submission changes what the register block of any ring reads as. -/
theorem status_submit (hdisjoint : rings.registers.window.Disjoint rings.aperture.window)
    (id other : UInt8) (words : List UInt32) (s : RingMemory) :
    rings.status (rings.submit id words s).2 other = rings.status s other :=
  status_congr other (sameBytes_submit hdisjoint.symm id words s)

/-- The register window holds the registers of ring `id`, up to the end of its base address. -/
def Covers (rings : RingAccess) (id : UInt8) : Prop :=
  rings.registers.window.Contains (rings.map.ringBlock id) 0x20

instance (rings : RingAccess) (id : UInt8) : Decidable (rings.Covers id) :=
  inferInstanceAs (Decidable (rings.registers.window.Contains _ _))

/-- On gfx10 the blocks of the rings lie `0x100` bytes apart. -/
theorem ringBlock_gfx10 (hmap : rings.map = .gfx10) (id : UInt8) :
    rings.map.ringBlock id = 0xC100 + id.toNat * 0x100 := by
  rw [hmap]
  rfl

/-- A block that covers a ring admits each of its registers. -/
theorem admits_of_covers (hmap : rings.map = .gfx10) (hcovers : rings.Covers id) {offset : Nat}
    (haligned : offset % 4 = 0) (hinside : offset + 4 ≤ 0x20) :
    rings.registers.window.Admits (rings.map.ringBlock id + offset) 4 := by
  have hblock := ringBlock_gfx10 hmap id
  unfold Covers Window.Contains at hcovers
  constructor
  · rw [hblock]
    omega
  · unfold Window.Contains
    omega

theorem admits_base_of_covers (hmap : rings.map = .gfx10) (hcovers : rings.Covers id) :
    rings.registers.window.Admits (rings.map.ringBlock id + 0x18) 8 := by
  refine ⟨?_, hcovers⟩
  rw [ringBlock_gfx10 hmap]
  omega

theorem wptrOffset_gfx10 (hmap : rings.map = .gfx10) (id : UInt8) :
    rings.wptrOffset id = rings.map.ringBlock id + 0x0C := by
  rw [wptrOffset, hmap]
  rfl

theorem admits_wptrOffset (hmap : rings.map = .gfx10) (hcovers : rings.Covers id) :
    rings.registers.window.Admits (rings.wptrOffset id) 4 := by
  rw [wptrOffset_gfx10 hmap]
  exact admits_of_covers hmap hcovers (by decide) (by decide)

/-- The register block of ring `id` as the layout of the known chips places it. -/
theorem status_gfx10 (hmap : rings.map = .gfx10) (s : RingMemory) (hid : id < rings.map.ringCount) :
    rings.status s id = .ok {
      id := id
      base := rings.registers.read64 s.memory (rings.map.ringBlock id + 0x18)
      readPtr := rings.registers.read32 s.memory (rings.map.ringBlock id + 0x08)
      writePtr := rings.registers.read32 s.memory (rings.map.ringBlock id + 0x0C)
      size := rings.registers.read32 s.memory (rings.map.ringBlock id + 0x10)
      enabled := rings.registers.read32 s.memory (rings.map.ringBlock id + 0x04) &&& 1 != 0 } := by
  have hring : rings.map.ring = {} := by
    rw [hmap]
    rfl
  rw [status_of_lt rings s hid]
  simp only [hring]

/-- A write pointer that was written to its register reads back, and the other registers stay. -/
theorem status_write_wptr (hmap : rings.map = .gfx10)
    (hadmits : rings.registers.window.Admits (rings.wptrOffset id) 4)
    (hstatus : rings.status s id = .ok status) (pointers : WritePointers) (ptr : UInt32) :
    rings.status ⟨rings.registers.write32 s.memory (rings.wptrOffset id) ptr, pointers⟩ id =
      .ok { status with writePtr := ptr } := by
  have hid := (status_spec hstatus).1
  rw [wptrOffset_gfx10 hmap] at hadmits
  rw [status_gfx10 hmap _ hid] at hstatus ⊢
  cases hstatus
  rw [wptrOffset_gfx10 hmap, RegisterBlock.read32_write32 hadmits,
    RegisterBlock.read32_write32_of_apart (by omega),
    RegisterBlock.read32_write32_of_apart (by omega),
    RegisterBlock.read32_write32_of_apart (by omega),
    RegisterBlock.read64_write32_of_apart (by omega)]

/-- What is announced for one ring leaves the register blocks of the others alone. -/
theorem status_announced_of_ne (hmap : rings.map = .gfx10) (hdisjoint : rings.WindowsDisjoint)
    {other : UInt8} (hne : other ≠ id) (s : RingMemory) (pointers : WritePointers) (ptr : UInt32) :
    rings.status ⟨rings.announced id ptr s.memory, pointers⟩ other = rings.status s other := by
  have hids : other.toNat ≠ id.toNat := fun heq => hne (UInt8.toNat_inj.1 heq)
  rw [status_congr other
    (s := ⟨rings.registers.write32 s.memory (rings.wptrOffset id) ptr, pointers⟩)
    (sameBytes_announced_registers hdisjoint.doorbell_registers id ptr s.memory)]
  by_cases hother : other < rings.map.ringCount
  · rw [status_gfx10 hmap _ hother, status_gfx10 hmap _ hother, wptrOffset_gfx10 hmap,
      ringBlock_gfx10 hmap, ringBlock_gfx10 hmap,
      RegisterBlock.read32_write32_of_apart (by omega),
      RegisterBlock.read32_write32_of_apart (by omega),
      RegisterBlock.read32_write32_of_apart (by omega),
      RegisterBlock.read32_write32_of_apart (by omega),
      RegisterBlock.read64_write32_of_apart (by omega)]
  · rw [status_of_le _ (UInt8.not_lt.1 hother), status_of_le _ (UInt8.not_lt.1 hother)]

/-- A device that moves its read pointer leaves the ring's other registers alone. -/
theorem status_write_rptr (hmap : rings.map = .gfx10) (hcovers : rings.Covers id)
    (hstatus : rings.status s id = .ok status) (pointers : WritePointers) (ptr : UInt32) :
    rings.status ⟨rings.registers.write32 s.memory
      (rings.map.ringBlock id + rings.map.ring.rptr) ptr, pointers⟩ id =
      .ok { status with readPtr := ptr } := by
  have hid := (status_spec hstatus).1
  have hrptr : rings.map.ring.rptr = 0x08 := by
    rw [hmap]
    rfl
  have hadmits : rings.registers.window.Admits (rings.map.ringBlock id + 0x08) 4 :=
    admits_of_covers hmap hcovers (by decide) (by decide)
  rw [status_gfx10 hmap _ hid] at hstatus ⊢
  cases hstatus
  rw [hrptr, RegisterBlock.read32_write32 hadmits,
    RegisterBlock.read32_write32_of_apart (by omega),
    RegisterBlock.read32_write32_of_apart (by omega),
    RegisterBlock.read32_write32_of_apart (by omega),
    RegisterBlock.read64_write32_of_apart (by omega)]

/-- An announcement changes the write pointer in the ring's status, and nothing else in it. -/
theorem status_announced (hmap : rings.map = .gfx10) (hdisjoint : rings.WindowsDisjoint)
    (hadmits : rings.registers.window.Admits (rings.wptrOffset id) 4)
    (hstatus : rings.status s id = .ok status) (pointers : WritePointers) (ptr : UInt32) :
    rings.status ⟨rings.announced id ptr s.memory, pointers⟩ id =
      .ok { status with writePtr := ptr } := by
  rw [status_congr id (s := ⟨rings.registers.write32 s.memory (rings.wptrOffset id) ptr, pointers⟩)
    (sameBytes_announced_registers hdisjoint.doorbell_registers id ptr s.memory)]
  exact status_write_wptr hmap hadmits hstatus pointers ptr

end RingAccess

/-- Rings behind windows in three regions of memory. -/
def RingAccess.sample : RingAccess where
  registers := ⟨.registers, 0xF0000000, 0xF0000000, ⟨0, 0⟩, 0x10000⟩
  aperture := ⟨⟨.aperture, 0xE0000000, 0xE0000000, ⟨1, 0⟩, 0x1000⟩, 0x200000000⟩
  doorbell := some ⟨⟨.doorbell, 0xF0100000, 0xF0100000, ⟨2, 0⟩, 0x10000⟩, 0x2000⟩
  map := .gfx10
  margin := 0

/-- Control word, read pointer, write pointer, size, a word that is not used, base address. -/
def sampleBlock (size : UInt32) : List UInt32 := [1, 13, 29, size, 0, 0x100, 0]

/-- Ring 1 of `size` bytes at device address 0x100, sixteen dwords between its pointers. -/
def RingMemory.sample (size : UInt32) : RingMemory where
  memory := Memory.empty.store ⟨0, 0xC204⟩ (LittleEndian.dwords (sampleBlock size))
  pointers := {}

namespace RingAccess

theorem windowsDisjoint_sample : sample.WindowsDisjoint := by
  constructor
  · rintro c ⟨hregisters, -⟩ ⟨haperture, -⟩
    cases hregisters.symm.trans haperture
  · rintro d ⟨⟩ c ⟨hdoorbell, -⟩ ⟨hregisters, -⟩
    cases hdoorbell.symm.trans hregisters
  · rintro d ⟨⟩ c ⟨hdoorbell, -⟩ ⟨haperture, -⟩
    cases hdoorbell.symm.trans haperture

theorem read32_sample (size : UInt32) {i : Nat} (hi : i < (sampleBlock size).length) :
    sample.registers.read32 (RingMemory.sample size).memory (0xC204 + 4 * i) =
      (sampleBlock size)[i] := by
  have hadmits : sample.registers.window.Admits (0xC204 + 4 * i) 4 := by
    have hi : i < 7 := hi
    constructor
    · omega
    · change 0xC204 + 4 * i + 4 ≤ 0x10000
      omega
  have hcell : sample.registers.window.cell (0xC204 + 4 * i) =
      Cell.advance ⟨0, 0xC204⟩ (4 * i) := by
    simp only [Window.cell, sample, Cell.advance, Nat.zero_add]
  rw [RegisterBlock.read32, Window.read32, if_pos hadmits, hcell]
  exact Memory.loadDword_store_dwords _ _ (sampleBlock size) hi

theorem read64_sample (size : UInt32) :
    sample.registers.read64 (RingMemory.sample size).memory 0xC218 = 0x100 := by
  have hadmits : sample.registers.window.Admits 0xC218 8 := by decide
  have hload : (RingMemory.sample size).memory.load ⟨0, 0xC204⟩ 28 =
      LittleEndian.dwords (sampleBlock size) :=
    Memory.load_store .empty ⟨0, 0xC204⟩ (LittleEndian.dwords (sampleBlock size))
  have hbase : (RingMemory.sample size).memory.load (Cell.advance ⟨0, 0xC204⟩ 20) 8 =
      LittleEndian.dwords [0x100, 0] := by
    rw [Memory.load_advance _ _ (show 20 + 8 ≤ 28 by decide), hload,
      LittleEndian.drop_dwords _ 5, LittleEndian.take_dwords _ 2]
    rfl
  rw [RegisterBlock.read64, Window.read64, if_pos hadmits]
  change LittleEndian.toQword
    ((RingMemory.sample size).memory.load (Cell.advance ⟨0, 0xC204⟩ 20) 8) = _
  rw [hbase]
  decide

/-- Ring 1 of the sample is enabled, with sixteen dwords between its pointers, which is once around
a ring of 64 bytes. -/
theorem status_sample (size : UInt32) :
    sample.status (.sample size) 1 = .ok ⟨1, 0x100, 13, 29, size, true⟩ := by
  have hcntl := read32_sample size (i := 0) (by simp [sampleBlock])
  have hrptr := read32_sample size (i := 1) (by simp [sampleBlock])
  have hwptr := read32_sample size (i := 2) (by simp [sampleBlock])
  have hsize := read32_sample size (i := 3) (by simp [sampleBlock])
  rw [status_gfx10 rfl _ (by decide)]
  change Except.ok (RingStatus.mk 1
    (sample.registers.read64 (RingMemory.sample size).memory 0xC218)
    (sample.registers.read32 (RingMemory.sample size).memory (0xC204 + 4 * 1))
    (sample.registers.read32 (RingMemory.sample size).memory (0xC204 + 4 * 2))
    (sample.registers.read32 (RingMemory.sample size).memory (0xC204 + 4 * 3))
    (sample.registers.read32 (RingMemory.sample size).memory (0xC204 + 4 * 0) &&& 1 != 0)) = _
  have henable : ((1 : UInt32) &&& 1 != 0) = true := by decide
  rw [hcntl, hrptr, hwptr, hsize, read64_sample]
  simp only [sampleBlock, List.getElem_cons_zero, List.getElem_cons_succ, henable]

end RingAccess

end GpuControl
