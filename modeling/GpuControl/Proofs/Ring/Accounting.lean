import GpuControl.Proofs.Ring.Doorbell

namespace GpuControl

namespace RingAccess

variable {rings : RingAccess} {id : UInt8} {words : List UInt32} {s after : RingMemory}
  {status : RingStatus} {ptr : UInt32}

/-- Words that are let in never lead the write pointer back to the read pointer's slot. -/
theorem Reachable.slots_ne_of_room (hreach : rings.Reachable status)
    (hstatus : rings.status s id = .ok status) {count : Nat} (hcount : 0 < count)
    (hroom : count * 4 ≤ rings.room s status) :
    status.readPtr.toNat % (rings.store status).slots ≠
      (rings.pointerAfter s status count).toNat % (rings.store status).slots := by
  intro hmeet
  have hbacklog := hreach.backlog_set_pointerAfter hstatus s.memory
    (hreach.lt_slots_of_room hcount hroom)
  have hnone : slotsBetween (rings.store status).slots status.readPtr.toNat
      (rings.pointerAfter s status count).toNat = 0 := slotsBetween_eq hreach.visible.1 hmeet
  rw [backlog, writePtr_set (status_spec hstatus).2, hnone] at hbacklog
  omega

/-- An accepted submission takes the bytes of its words from the free ones, and the ring's registers
read as before. -/
theorem room_submit (hdisjoint : rings.WindowsDisjoint)
    (hsubmit : rings.submit id words s = (.ok ptr, after)) :
    ∃ status, rings.status s id = .ok status ∧ rings.status after id = .ok status ∧
      writePtr after status = ptr ∧
      rings.room after status + 4 * words.length = rings.room s status := by
  have hkept := status_submit hdisjoint.registers_aperture id id words s
  have houtcome := submit_outcome rings id words s
  rw [hsubmit] at houtcome hkept
  cases houtcome with
  | nothing hstatus _ hwords =>
    refine ⟨_, hstatus, hstatus, rfl, ?_⟩
    rw [hwords, List.length_nil]
    rfl
  | copied hstatus _ hwords hreach hroom =>
    refine ⟨_, hstatus, hkept.trans hstatus, ?_, ?_⟩
    · exact writePtr_set (status_spec hstatus).2 _ _ _
    · rw [Nat.mul_comm]
      exact hreach.room_set_pointerAfter hstatus _ (List.length_pos_iff.2 hwords) hroom

/-- After an announcement the registers tell all that the host knows. -/
theorem freeBytes_announced (hmap : rings.map = .gfx10) (hdisjoint : rings.WindowsDisjoint)
    (hadmits : rings.registers.window.Admits (rings.wptrOffset id) 4)
    (hstatus : rings.status s id = .ok status) (ptr : UInt32) :
    ∃ rung, rings.ringDoorbell id ptr s = (.ok (), rung) ∧
      rings.status rung id = .ok { status with writePtr := ptr } ∧
      rings.freeBytes rung id =
        .ok (RingStatus.freeBytes { status with writePtr := ptr } rings.margin) := by
  have hannounced := status_announced hmap hdisjoint hadmits hstatus (s.pointers.set id ptr) ptr
  refine ⟨_, ringDoorbell_of_lt ptr s (status_spec hstatus).1, hannounced, ?_⟩
  rw [freeBytes_eq hannounced, writePtr_set (status_spec hannounced).2]
  rfl

/-- An accepted submission takes from the free bytes exactly those of its words. If there are words,
and the returned pointer is announced while the ring's registers read as before, that of the write
pointer apart, then the ring is busy: its pointers differ, as numbers and as slots, and the
registers give the same free bytes as the host's own count, which is what it was after the
submission. -/
theorem submit_accounted (hmap : rings.map = .gfx10) (hdisjoint : rings.WindowsDisjoint)
    (hsubmit : rings.submit id words s = (.ok ptr, after)) :
    ∃ status before now, rings.status s id = .ok status ∧ rings.status after id = .ok status ∧
      rings.freeBytes s id = .ok before ∧ rings.freeBytes after id = .ok now ∧
      now.toNat + 4 * words.length = before.toNat ∧
      (words ≠ [] → rings.registers.window.Admits (rings.wptrOffset id) 4 →
        ∀ later registered, rings.status later id = .ok { status with writePtr := registered } →
          let slots := status.size.toNat / 4
          let announced : RingStatus := { status with writePtr := ptr }
          ∃ rung, rings.ringDoorbell id ptr later = (.ok (), rung) ∧
            rings.status rung id = .ok announced ∧ announced.state = .busy ∧
            status.readPtr ≠ ptr ∧ status.readPtr.toNat % slots ≠ ptr.toNat % slots ∧
            announced.freeBytes rings.margin = now ∧ rings.freeBytes rung id = .ok now) := by
  obtain ⟨status, hstatus, hafter, hptr, haccounted⟩ := room_submit hdisjoint hsubmit
  refine ⟨status, _, _, hstatus, hafter, freeBytes_eq hstatus, freeBytes_eq hafter, haccounted, ?_⟩
  intro hwords hadmits later registered hlater slots announced
  obtain ⟨_, hstatus', henabled, hreach, hroom, hnext⟩ := accepted_of_submit hsubmit hwords
  cases hstatus.symm.trans hstatus'
  have hslots : status.readPtr.toNat % slots ≠ ptr.toNat % slots := by
    rw [hnext]
    exact hreach.slots_ne_of_room hstatus (List.length_pos_iff.2 hwords) hroom
  have hne : status.readPtr ≠ ptr := by
    rintro rfl
    exact hslots rfl
  have hbusy : announced.state = .busy := by
    simp only [RingStatus.state, announced, henabled, hne, Bool.not_true, Bool.false_eq_true,
      if_false]
  obtain ⟨rung, hrung, hannounced, hfree⟩ :=
    freeBytes_announced hmap hdisjoint hadmits hlater ptr
  rw [hptr]
  exact ⟨rung, hrung, hannounced, hbusy, hne, hslots, rfl, hfree⟩

/-- Five words go around the end of an empty ring of sixteen dwords, whose write pointer register
counts a round more than its read pointer register. -/
theorem submit_accounted_sample :
    sample.map = .gfx10 ∧ sample.WindowsDisjoint ∧
    ∃ after, sample.submit 1 [1, 2, 3, 4, 5] (.sample 64) = (.ok 2, after) ∧
      sample.freeBytes (.sample 64) 1 = .ok 60 ∧
      ∃ now, sample.freeBytes after 1 = .ok now ∧ now.toNat + 4 * 5 = 60 ∧
        ∃ rung, sample.ringDoorbell 1 2 after = (.ok (), rung) ∧
          sample.status rung 1 = .ok ⟨1, 0x100, 13, 2, 64, true⟩ ∧
          sample.freeBytes rung 1 = .ok now := by
  have hstatus := status_sample 64
  have hfree : sample.freeBytes (.sample 64) 1 = .ok 60 := freeBytes_eq hstatus
  have hwords : ([1, 2, 3, 4, 5] : List UInt32) ≠ [] := List.cons_ne_nil _ _
  obtain ⟨m, hsubmit, -⟩ := submit_of_room hstatus rfl hwords (by decide) (by decide)
  obtain ⟨status, before, now, hstatus', hafter, hbefore, hnow, haccounted, hrung⟩ :=
    submit_accounted rfl windowsDisjoint_sample hsubmit
  cases hstatus.symm.trans hstatus'
  cases hfree.symm.trans hbefore
  obtain ⟨rung, hdoorbell, hannounced, -, -, -, -, hrungFree⟩ :=
    hrung hwords (by decide) _ 29 hafter
  exact ⟨rfl, windowsDisjoint_sample, _, hsubmit, hfree, now, hnow, haccounted, rung, hdoorbell,
    hannounced, hrungFree⟩

end RingAccess

end GpuControl
