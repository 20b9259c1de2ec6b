import GpuControl.Proofs.Ring.Doorbell

namespace GpuControl

namespace RingAccess

/-- Ring `id`, whose registers read as `status` in `s`, is drained in `s'`: the read pointer leads
to the slot of the write pointer, and everything else that a submission looks at is as in `s`. -/
structure Drained (rings : RingAccess) (id : UInt8) (status : RingStatus) (s s' : RingMemory) :
    Prop where
  status_eq : ∃ readPtr : UInt32, rings.status s' id = .ok { status with readPtr } ∧
    readPtr.toNat % (rings.store status).slots =
      (writePtr s status).toNat % (rings.store status).slots
  pointers_eq : s'.pointers = s.pointers

/-- The words fit into the ring when it is empty. -/
def FitsEmpty (rings : RingAccess) (status : RingStatus) (words : List UInt32) : Prop :=
  words.length * 4 + max rings.margin.toNat 4 ≤ status.size.toNat

instance (rings : RingAccess) (status : RingStatus) (words : List UInt32) :
    Decidable (rings.FitsEmpty status words) :=
  inferInstanceAs (Decidable (_ ≤ _))

variable {rings : RingAccess} {id : UInt8} {words : List UInt32} {s s' : RingMemory}
  {status : RingStatus}

/-- A read pointer that is moved to the write pointer's slot drains the ring. -/
theorem drained_write_rptr (hmap : rings.map = .gfx10) (hcovers : rings.Covers id)
    (hstatus : rings.status s id = .ok status) (ptr : UInt32)
    (hptr : ptr.toNat % (rings.store status).slots =
      (writePtr s status).toNat % (rings.store status).slots) :
    rings.Drained id status s ⟨rings.registers.write32 s.memory
      (rings.map.ringBlock id + rings.map.ring.rptr) ptr, s.pointers⟩ :=
  ⟨⟨ptr, status_write_rptr hmap hcovers hstatus s.pointers ptr, hptr⟩, rfl⟩

/-- The only refusal that may pass is that of a full ring. -/
theorem Refusal.of_isRetryable {e : DriverError} (why : Refusal rings id words s e)
    (hretryable : e.isRetryable = true) :
    ∃ status, rings.status s id = .ok status ∧ status.enabled = true ∧ words ≠ [] ∧
      rings.Reachable status ∧ rings.room s status < words.length * 4 ∧
      e = .ringFull id (words.length * 4) (rings.room s status) := by
  cases why with
  | invalid => cases hretryable
  | disabled => cases hretryable
  | unreachable => cases hretryable
  | full hstatus henabled hwords hreach hfull =>
    exact ⟨_, hstatus, henabled, hwords, hreach, hfull, rfl⟩

/-- A drained ring has all of its space free but the margin. -/
theorem Reachable.room_of_pointers_meet (hreach : rings.Reachable status)
    (hmeet : status.readPtr.toNat % (rings.store status).slots =
      (writePtr s status).toNat % (rings.store status).slots) :
    rings.room s status = status.size.toNat - max rings.margin.toNat 4 := by
  have hbacklog : rings.backlog s status = 0 := slotsBetween_eq hreach.visible.1 hmeet
  rw [hreach.room_eq, hbacklog, Nat.mul_zero, Nat.sub_zero, ← hreach.size_eq]

/-- Into a drained ring goes what fits into an empty one, and nothing else. -/
theorem Drained.submit (hdrained : rings.Drained id status s s') (henabled : status.enabled = true)
    (hwords : words ≠ []) (hreach : rings.Reachable status) :
    (rings.FitsEmpty status words → ∃ m,
      rings.submit id words s' = (.ok (rings.pointerAfter s status words.length),
        ⟨m, s.pointers.set id (rings.pointerAfter s status words.length)⟩)) ∧
    (¬rings.FitsEmpty status words →
      rings.submit id words s' = (.error (.ringFull id (words.length * 4)
        (status.size.toNat - max rings.margin.toNat 4)), s')) := by
  obtain ⟨⟨readPtr, hstatus', hmeet⟩, hpointers⟩ := hdrained
  have hwptr : writePtr s' { status with readPtr } = writePtr s status := by
    rw [writePtr, writePtr, hpointers]
  have hreach' : rings.Reachable { status with readPtr } := hreach
  have hroom : rings.room s' { status with readPtr } =
      status.size.toNat - max rings.margin.toNat 4 := by
    apply hreach'.room_of_pointers_meet
    rw [hwptr]
    exact hmeet
  have hcount : 0 < words.length := List.length_pos_iff.2 hwords
  constructor
  · intro hfits
    unfold FitsEmpty at hfits
    obtain ⟨m, hsubmit, -⟩ := submit_of_room hstatus' henabled hwords hreach' (by omega)
    refine ⟨m, ?_⟩
    rw [hsubmit, pointerAfter, pointerAfter, hwptr, hpointers]
    rfl
  · intro hfits
    unfold FitsEmpty at hfits
    rw [← hroom]
    exact submit_of_refusal (.full hstatus' henabled hwords hreach' (by omega))

/-- After a refusal that may pass, with the ring drained and nothing else changed, the same words
are accepted if and only if they fit into the empty ring. If they do not, they meet with a refusal
that may pass again. -/
theorem retry_accepted_iff_fitsEmpty {e : DriverError} {after : RingMemory}
    (hrefused : rings.submit id words s = (.error e, after)) (hretryable : e.isRetryable = true)
    (hstatus : rings.status s id = .ok status) (hdrained : rings.Drained id status s s') :
    e = .ringFull id (words.length * 4) (rings.room s status) ∧ after = s ∧
    ((∃ ptr after', rings.submit id words s' = (.ok ptr, after')) ↔
      rings.FitsEmpty status words) ∧
    (¬rings.FitsEmpty status words → ∃ again,
      rings.submit id words s' = (.error again, s') ∧ again.isRetryable = true) := by
  have houtcome := submit_outcome rings id words s
  rw [hrefused] at houtcome
  cases houtcome with
  | refused why =>
    obtain ⟨_, hstatus', henabled, hwords, hreach, -, rfl⟩ := why.of_isRetryable hretryable
    cases hstatus.symm.trans hstatus'
    obtain ⟨haccepts, hrefuses⟩ := hdrained.submit henabled hwords hreach
    refine ⟨rfl, rfl, ⟨?_, ?_⟩, fun hfits => ⟨_, hrefuses hfits, rfl⟩⟩
    · rintro ⟨ptr, after', hsubmit⟩
      by_contra hfits
      cases hsubmit.symm.trans (hrefuses hfits)
    · intro hfits
      obtain ⟨m, hsubmit⟩ := haccepts hfits
      exact ⟨_, _, hsubmit⟩

/-- The sample ring after its device has read everything. -/
def sampleDrained (size : UInt32) : RingMemory :=
  ⟨sample.registers.write32 (RingMemory.sample size).memory 0xC208 29, {}⟩

theorem drained_sample (size : UInt32) :
    sample.Drained 1 ⟨1, 0x100, 13, 29, size, true⟩ (.sample size) (sampleDrained size) :=
  drained_write_rptr rfl (by decide) (status_sample size) 29 rfl

/-- Sixteen words do not fit beside the sixteen that wait in a ring of thirty-two; they do once
those are read. -/
theorem retry_accepted_sample :
    let words := List.replicate 16 (7 : UInt32)
    sample.submit 1 words (.sample 128) = (.error (.ringFull 1 64 60), .sample 128) ∧
    (DriverError.ringFull 1 64 60).isRetryable = true ∧
    sample.status (.sample 128) 1 = .ok ⟨1, 0x100, 13, 29, 128, true⟩ ∧
    sample.Drained 1 ⟨1, 0x100, 13, 29, 128, true⟩ (.sample 128) (sampleDrained 128) ∧
    ∃ ptr after, sample.submit 1 words (sampleDrained 128) = (.ok ptr, after) := by
  intro words
  have hstatus := status_sample 128
  have hrefused : sample.submit 1 words (.sample 128) =
      (.error (.ringFull 1 64 60), .sample 128) :=
    submit_of_refusal (.full hstatus rfl (List.cons_ne_nil _ _) (by decide) (by decide))
  have hiff := retry_accepted_iff_fitsEmpty hrefused rfl hstatus (drained_sample 128)
  exact ⟨hrefused, rfl, hstatus, drained_sample 128, hiff.2.2.1.2 (by decide)⟩

/-- A refusal that may pass and never does: sixteen words for a ring of sixteen dwords, one of which
always stays free. -/
theorem full_for_ever_sample :
    let words := List.replicate 16 (7 : UInt32)
    ∃ e, sample.submit 1 words (.sample 64) = (.error e, .sample 64) ∧ e.isRetryable = true ∧
      sample.status (.sample 64) 1 = .ok ⟨1, 0x100, 13, 29, 64, true⟩ ∧
      sample.Drained 1 ⟨1, 0x100, 13, 29, 64, true⟩ (.sample 64) (sampleDrained 64) ∧
      ¬∃ ptr after, sample.submit 1 words (sampleDrained 64) = (.ok ptr, after) := by
  intro words
  have hwords : words ≠ [] := List.cons_ne_nil _ _
  have hreach : sample.Reachable ⟨1, 0x100, 13, 29, 64, true⟩ := by decide
  refine ⟨_, submit_of_refusal (.full (status_sample 64) rfl hwords hreach (by decide)), rfl,
    status_sample 64, drained_sample 64, ?_⟩
  rintro ⟨ptr, after, hsubmit⟩
  cases hsubmit.symm.trans (((drained_sample 64).submit rfl hwords hreach).2 (by decide))

end RingAccess

end GpuControl
