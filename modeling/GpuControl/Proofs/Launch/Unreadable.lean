import GpuControl.Proofs.Launch.Effect
import GpuControl.Proofs.Ring.Effect

namespace GpuControl

namespace RingAccess

/-- Every register of ring `id` is inside the window, and `status` holds what is there. -/
structure WhollyRead (rings : RingAccess) (id : UInt8) (s : RingMemory) (status : RingStatus) :
    Prop where
  covers : rings.Covers id
  enabled : ∃ cntl, rings.registers.window.read32 s.memory
      (rings.map.ringBlock id + rings.map.ring.cntl) = some cntl ∧
    status.enabled = (cntl &&& rings.map.ring.enableBit != 0)
  readPtr : rings.registers.window.read32 s.memory
    (rings.map.ringBlock id + rings.map.ring.rptr) = some status.readPtr
  writePtr : rings.registers.window.read32 s.memory
    (rings.map.ringBlock id + rings.map.ring.wptr) = some status.writePtr
  size : rings.registers.window.read32 s.memory
    (rings.map.ringBlock id + rings.map.ring.size) = some status.size
  base : rings.registers.window.read64 s.memory
    (rings.map.ringBlock id + rings.map.ring.base) = some status.base

/-- Every register of ring `id` reads as all ones. -/
structure Silent (rings : RingAccess) (id : UInt8) (s : RingMemory) : Prop where
  cntl : rings.registers.read32 s.memory
    (rings.map.ringBlock id + rings.map.ring.cntl) = sentinel
  readPtr : rings.registers.read32 s.memory
    (rings.map.ringBlock id + rings.map.ring.rptr) = sentinel
  writePtr : rings.registers.read32 s.memory
    (rings.map.ringBlock id + rings.map.ring.wptr) = sentinel
  size : rings.registers.read32 s.memory
    (rings.map.ringBlock id + rings.map.ring.size) = sentinel
  base : rings.registers.read64 s.memory
    (rings.map.ringBlock id + rings.map.ring.base) = 0xFFFFFFFFFFFFFFFF

variable {rings : RingAccess} {id : UInt8} {s : RingMemory} {status : RingStatus}
  {words : List UInt32}

/-- A size of all ones is no whole number of dwords. -/
theorem not_reachable_of_size_sentinel (hsize : status.size = sentinel) :
    ¬rings.Reachable status := by
  rintro ⟨-, hdwords, -⟩
  rw [hsize] at hdwords
  exact absurd hdwords (by decide)

/-- A base of all ones is beyond any aperture, whose length is a number of 64 bits. -/
theorem not_reachable_of_base_unread (hlength : rings.aperture.visibleLen < UInt64.size)
    (hbase : status.base = 0xFFFFFFFFFFFFFFFF) : ¬rings.Reachable status := by
  rintro ⟨hpos, -, hin⟩
  rw [hbase] at hin
  change UInt64.size - 1 + status.size.toNat ≤ rings.aperture.visibleLen at hin
  omega

/-- A reachable ring's registers are inside the window up to the last. -/
theorem covers_of_reachable (hmap : rings.map = .gfx10)
    (hlength : rings.aperture.visibleLen < UInt64.size) (hstatus : rings.status s id = .ok status)
    (hreach : rings.Reachable status) : rings.Covers id := by
  have hadmits : rings.registers.window.Admits (rings.map.ringBlock id + 0x18) 8 := by
    by_contra hadmits
    have hid := (status_spec hstatus).1
    rw [status_gfx10 hmap _ hid] at hstatus
    cases hstatus
    exact not_reachable_of_base_unread hlength
      (RegisterBlock.read64_of_not_admits hadmits s.memory) hreach
  exact hadmits.2

theorem whollyRead_of_covers (hmap : rings.map = .gfx10) (hcovers : rings.Covers id)
    (hstatus : rings.status s id = .ok status) : rings.WhollyRead id s status := by
  have hring : rings.map.ring = {} := by
    rw [hmap]
    rfl
  have hread32 {offset : Nat} (haligned : offset % 4 = 0) (hinside : offset + 4 ≤ 0x20) :
      rings.registers.window.read32 s.memory (rings.map.ringBlock id + offset) =
        some (rings.registers.read32 s.memory (rings.map.ringBlock id + offset)) :=
    RegisterBlock.window_read32_of_admits (admits_of_covers hmap hcovers haligned hinside) _
  obtain ⟨-, rfl⟩ := status_eq_ok_iff.1 hstatus
  constructor
  case covers => exact hcovers
  case enabled =>
    rw [hring]
    refine ⟨_, hread32 (by decide) (by decide), ?_⟩
    rw [snapshot, hring]
  case base =>
    rw [snapshot, hring]
    exact RegisterBlock.window_read64_of_admits (admits_base_of_covers hmap hcovers) _
  all_goals
    rw [snapshot, hring]
    exact hread32 (by decide) (by decide)

/-- A block that lies behind the end of the window is silent, whatever is in memory. -/
theorem silent_of_block_outside
    (houtside : rings.registers.window.len ≤ rings.map.ringBlock id) (s : RingMemory) :
    rings.Silent id s := by
  have hread32 (offset : Nat) : rings.registers.read32 s.memory
      (rings.map.ringBlock id + offset) = sentinel := by
    apply RegisterBlock.read32_of_not_admits
    rintro ⟨-, hin⟩
    unfold Window.Contains at hin
    omega
  refine ⟨hread32 _, hread32 _, hread32 _, hread32 _, ?_⟩
  apply RegisterBlock.read64_of_not_admits
  rintro ⟨-, hin⟩
  unfold Window.Contains at hin
  omega

/-- A ring whose registers do not answer has no memory that could be reached: its size reads as all
ones. -/
theorem Silent.not_reachable (hsilent : rings.Silent id s)
    (hstatus : rings.status s id = .ok status) : ¬rings.Reachable status := by
  obtain ⟨-, rfl⟩ := status_eq_ok_iff.1 hstatus
  exact not_reachable_of_size_sentinel hsilent.size

/-- Words for such a ring are refused, and nothing changes. -/
theorem Silent.submit_refused (hsilent : rings.Silent id s) (hwords : words ≠ []) :
    ∃ e, rings.submit id words s = (.error e, s) := by
  have houtcome := submit_outcome rings id words s
  generalize rings.submit id words s = result at houtcome
  cases houtcome with
  | refused => exact ⟨_, rfl⟩
  | nothing _ _ hnil => exact absurd hnil hwords
  | copied hstatus _ _ hreach => exact absurd hreach (hsilent.not_reachable hstatus)

/-- So is a launch on a device whose compute ring does not answer. -/
theorem Silent.launch_refused {d : Device} {m : Memory}
    (hsilent : d.rings.Silent d.config.computeRing ⟨m, d.pointers⟩) (l : LaunchDescriptor) :
    ∃ e, Device.launch l d m = (.error e, d, m) := by
  have houtcome := Device.launch_outcome l d m
  generalize Device.launch l d m = result at houtcome
  cases houtcome with
  | unencodable => exact ⟨_, rfl⟩
  | refused => exact ⟨_, rfl⟩
  | launched _ hstatus _ hreach => exact absurd hreach (hsilent.not_reachable hstatus)

/-- Words are accepted only by a ring whose registers were all read, none of them for want of
anything better as all ones: its whole block lies inside the register window. If all of the ring's
registers read as all ones, as they do where the block lies outside the window, words are refused,
and so is every launch that would go to the ring, and nothing changes. The length of the aperture is
a machine word, so that no aperture reaches up to a base of all ones. -/
theorem submit_fails_closed (hmap : rings.map = .gfx10)
    (hlength : rings.aperture.visibleLen < UInt64.size) (id : UInt8) (hwords : words ≠ [])
    (s : RingMemory) :
    (∀ ptr after, rings.submit id words s = (.ok ptr, after) →
      ∃ status, rings.status s id = .ok status ∧ rings.WhollyRead id s status) ∧
    (rings.registers.window.len ≤ rings.map.ringBlock id → rings.Silent id s) ∧
    (rings.Silent id s →
      (∃ e, rings.submit id words s = (.error e, s)) ∧
      ∀ (d : Device) (l : LaunchDescriptor), d.rings = rings → d.config.computeRing = id →
        d.pointers = s.pointers → ∃ e, Device.launch l d s.memory = (.error e, d, s.memory)) := by
  refine ⟨?_, fun houtside => silent_of_block_outside houtside s, ?_⟩
  · intro ptr after hsubmit
    obtain ⟨status, hstatus, -, hreach, -⟩ := accepted_of_submit hsubmit hwords
    have hcovers := covers_of_reachable hmap hlength hstatus hreach
    exact ⟨status, hstatus, whollyRead_of_covers hmap hcovers hstatus⟩
  · intro hsilent
    refine ⟨hsilent.submit_refused hwords, ?_⟩
    rintro d l rfl rfl hpointers
    apply Silent.launch_refused
    rw [hpointers]
    exact hsilent

/-- The sample with a register window that ends where the block of ring 1 would begin. -/
def sampleCut : RingAccess :=
  { sample with registers := ⟨.registers, 0xF0000000, 0xF0000000, ⟨0, 0⟩, 0xC200⟩ }

/-- Five words are accepted by a ring whose registers can be read. Behind the shorter window they
are refused, and so is a launch. -/
theorem submit_fails_closed_sample :
    let s := RingMemory.sample 64
    let cut : Device := { Device.sample with registers := sampleCut.registers }
    sample.map = .gfx10 ∧ sample.aperture.visibleLen < UInt64.size ∧
    (∃ after, sample.submit 1 [1, 2, 3, 4, 5] s = (.ok 2, after)) ∧
    sample.WhollyRead 1 s ⟨1, 0x100, 13, 29, 64, true⟩ ∧
    (∃ e, sampleCut.submit 1 [1, 2, 3, 4, 5] s = (.error e, s)) ∧
    ∃ e, Device.launch Dispatcher.sampleLaunch cut s.memory = (.error e, cut, s.memory) := by
  intro s cut
  have hwords : ([1, 2, 3, 4, 5] : List UInt32) ≠ [] := List.cons_ne_nil _ _
  obtain ⟨m, hsubmit, -⟩ := submit_of_room (status_sample 64) rfl hwords (by decide) (by decide)
  obtain ⟨haccepted, -, -⟩ :=
    submit_fails_closed (show sample.map = .gfx10 from rfl) (by decide) 1 hwords s
  obtain ⟨-, houtside, hrefused⟩ :=
    submit_fails_closed (show sampleCut.map = .gfx10 from rfl) (by decide) 1 hwords s
  obtain ⟨status, hstatus, hread⟩ := haccepted _ _ hsubmit
  obtain ⟨hsubmitCut, hlaunchCut⟩ := hrefused (houtside (by decide))
  cases (status_sample 64).symm.trans hstatus
  exact ⟨rfl, by decide, ⟨_, hsubmit⟩, hread, hsubmitCut,
    hlaunchCut cut Dispatcher.sampleLaunch rfl rfl rfl⟩

end RingAccess

end GpuControl
