import GpuControl.Proofs.Ring.Doorbell
import Mathlib

namespace GpuControl

namespace RingAccess

/-- The dwords from the read pointer forward to the host's write pointer. -/
def pending (rings : RingAccess) (s : RingMemory) (status : RingStatus) : List UInt32 :=
  (rings.store status).words s.memory status.readPtr.toNat (rings.backlog s status)

/-- How many dwords the device can see: those from its read pointer to the pointer that was last
announced to it. -/
def announcedCount (rings : RingAccess) (status : RingStatus) : Nat :=
  slotsBetween (rings.store status).slots status.readPtr.toNat status.writePtr.toNat

/-- Ring `id` is enabled and visible, its registers read as `status`, and it holds nothing. Its two
pointers need not be equal as numbers. -/
structure Empty (rings : RingAccess) (id : UInt8) (s : RingMemory) (status : RingStatus) :
    Prop where
  status_eq : rings.status s id = .ok status
  enabled : status.enabled = true
  reachable : rings.Reachable status
  pointers_meet : status.readPtr.toNat % (rings.store status).slots =
    status.writePtr.toNat % (rings.store status).slots
  unset : s.pointers.get id = none

/-- What an accepted submission leaves behind: registers that read as before, the host's write
pointer after the words, and the words in the ring after those that were pending. -/
structure Appended (rings : RingAccess) (id : UInt8) (status : RingStatus) (words : List UInt32)
    (s now : RingMemory) : Prop where
  status_eq : rings.status now id = .ok status
  writePtr_eq : writePtr now status = rings.pointerAfter s status words.length
  backlog_eq : rings.backlog now status = rings.backlog s status + words.length
  pending_eq : rings.pending now status = rings.pending s status ++ words

variable {rings : RingAccess} {id : UInt8} {s : RingMemory} {status : RingStatus}

@[simp] theorem length_pending (rings : RingAccess) (s : RingMemory) (status : RingStatus) :
    (rings.pending s status).length = rings.backlog s status :=
  RingStore.length_words _ _

/-- Words that fit beside the pending ones and the margin fit into the free space. -/
theorem Reachable.le_room (hreach : rings.Reachable status) {count : Nat}
    (hfits : 4 * ((rings.pending s status).length + count) + max rings.margin.toNat 4 ≤
      status.size.toNat) : count * 4 ≤ rings.room s status := by
  have hsize := hreach.size_eq
  rw [length_pending] at hfits
  rw [hreach.room_eq]
  omega

/-- Words that were copied behind the host's pointer, which then moves past them, are appended to
what is pending. -/
theorem appended_of_copied (hdisjoint : rings.WindowsDisjoint)
    (hstatus : rings.status s id = .ok status) (hreach : rings.Reachable status)
    {words : List UInt32} (hwords : words ≠ []) (hroom : words.length * 4 ≤ rings.room s status)
    {m : Memory}
    (hcopied : (rings.store status).Copied (writePtr s status).toNat words s.memory m) :
    rings.Appended id status words s
      ⟨m, s.pointers.set id (rings.pointerAfter s status words.length)⟩ := by
  have hcount : 0 < words.length := List.length_pos_iff.2 hwords
  have hfits := hreach.lt_slots_of_room hcount hroom
  have hfrom : (status.readPtr.toNat + rings.backlog s status) % (rings.store status).slots =
      (writePtr s status).toNat % (rings.store status).slots :=
    add_slotsBetween_mod hreach.visible.1 _ _
  have hbacklog := hreach.backlog_set_pointerAfter hstatus m hfits
  refine ⟨?_, writePtr_set (status_spec hstatus).2 _ _ _, hbacklog, ?_⟩
  · rw [status_congr id (s := s), hstatus]
    exact hcopied.sameBytes hreach.visible hdisjoint.registers_aperture.symm
  · rw [pending, hbacklog]
    exact (hcopied.of_mod_eq hfrom).words_append hfits

/-- Words that fit into the free space are accepted. -/
theorem submit_appended (hdisjoint : rings.WindowsDisjoint)
    (hstatus : rings.status s id = .ok status) (henabled : status.enabled = true)
    (hreach : rings.Reachable status) {words : List UInt32} (hwords : words ≠ [])
    (hroom : words.length * 4 ≤ rings.room s status) :
    ∃ now, rings.submit id words s = (.ok (rings.pointerAfter s status words.length), now) ∧
      now.pointers = s.pointers.set id (rings.pointerAfter s status words.length) ∧
      rings.Appended id status words s now := by
  obtain ⟨m, hsubmit, hcopied⟩ := submit_of_room hstatus henabled hwords hreach hroom
  exact ⟨_, hsubmit, rfl, appended_of_copied hdisjoint hstatus hreach hwords hroom hcopied⟩

end RingAccess

/-- A ring in use and what went through it. -/
structure RingHistory where
  now : RingMemory
  /-- Words of the submissions that were accepted, in order. -/
  accepted : List UInt32 := []
  /-- Words that the device has read out of the ring, in order. -/
  fetched : List UInt32 := []
  /-- What the latest accepted submission returned. -/
  returned : Option UInt32 := none

/-- What can happen to a ring next. -/
inductive RingAction where
  | submit (words : List UInt32)
  /-- The latest returned pointer is announced. -/
  | doorbell
  /-- The device reads some of the dwords that it can see and moves its read pointer over them. -/
  | fetch (count : Nat)

namespace RingHistory

/-- One action on ring `id`; nothing happens where it is not possible. -/
def step (rings : RingAccess) (id : UInt8) (h : RingHistory) : RingAction → RingHistory
  | .submit words =>
    match rings.submit id words h.now with
    | (.ok ptr, now) => { h with now, accepted := h.accepted ++ words, returned := some ptr }
    | (.error _, now) => { h with now }
  | .doorbell =>
    match h.returned with
    | none => h
    | some ptr => { h with now := (rings.ringDoorbell id ptr h.now).2 }
  | .fetch count =>
    match rings.status h.now id with
    | .error _ => h
    | .ok status =>
      if count ≤ rings.announcedCount status then
        let place := rings.map.ringBlock id + rings.map.ring.rptr
        let readPtr :=
          UInt32.ofNat ((status.readPtr.toNat + count) % (rings.store status).slots)
        { h with
          now := { h.now with memory := rings.registers.write32 h.now.memory place readPtr }
          fetched := h.fetched ++
            (rings.store status).words h.now.memory status.readPtr.toNat count }
      else h

def run (rings : RingAccess) (id : UInt8) (h : RingHistory) (actions : List RingAction) :
    RingHistory :=
  actions.foldl (step rings id) h

/-- The ring can be used, its registers read as `status`, and its queue is accounted for. -/
structure Intact (rings : RingAccess) (id : UInt8) (status : RingStatus) (h : RingHistory) :
    Prop where
  status_eq : rings.status h.now id = .ok status
  enabled : status.enabled = true
  reachable : rings.Reachable status
  /-- The announced pointer never runs ahead of the host's own. -/
  announced_le : rings.announcedCount status ≤ rings.backlog h.now status
  conserved : h.fetched ++ rings.pending h.now status = h.accepted
  returned_eq : ∀ ptr, h.returned = some ptr → ptr = RingAccess.writePtr h.now status

/-- The ring described by the two register blocks lies at the same place. -/
def SamePlace (status status' : RingStatus) : Prop :=
  status'.base = status.base ∧ status'.size = status.size

variable {rings : RingAccess} {id : UInt8} {status : RingStatus} {h : RingHistory}

/-- Words that the driver takes count as accepted. -/
theorem step_submit_ok {words : List UInt32} {ptr : UInt32} {now : RingMemory}
    (hsubmit : rings.submit id words h.now = (.ok ptr, now)) :
    h.step rings id (.submit words) =
      { h with now, accepted := h.accepted ++ words, returned := some ptr } := by
  simp only [step, hsubmit]

/-- Words that it refuses leave the run where it is. -/
theorem step_submit_error {words : List UInt32} {e : DriverError}
    (hsubmit : rings.submit id words h.now = (.error e, h.now)) :
    h.step rings id (.submit words) = h := by
  simp only [step, hsubmit]

/-- A submission keeps the ring intact: the words are accepted and pending, or neither. -/
theorem Intact.submit (hdisjoint : rings.WindowsDisjoint) (hintact : h.Intact rings id status)
    (words : List UInt32) : (h.step rings id (.submit words)).Intact rings id status := by
  have hstatus := hintact.status_eq
  have hreach := hintact.reachable
  have houtcome := RingAccess.submit_outcome rings id words h.now
  generalize hsubmit : rings.submit id words h.now = result at houtcome
  cases houtcome with
  | refused why =>
    rw [step_submit_error hsubmit]
    exact hintact
  | nothing hstatus' _ hwords =>
    cases hstatus.symm.trans hstatus'
    rw [step_submit_ok hsubmit, hwords, List.append_nil]
    refine ⟨hstatus, hintact.enabled, hreach, hintact.announced_le, hintact.conserved, ?_⟩
    rintro ptr ⟨⟩
    rfl
  | @copied _ m hstatus' _ hwords _ hroom hcopied =>
    cases hstatus.symm.trans hstatus'
    have happended := RingAccess.appended_of_copied hdisjoint hstatus hreach hwords hroom hcopied
    rw [step_submit_ok hsubmit]
    refine ⟨happended.status_eq, hintact.enabled, hreach, ?_, ?_, ?_⟩
    · rw [happended.backlog_eq]
      exact Nat.le_add_right_of_le hintact.announced_le
    · rw [happended.pending_eq, ← List.append_assoc, hintact.conserved]
    · rintro ptr ⟨⟩
      exact happended.writePtr_eq.symm

/-- A doorbell keeps the ring intact: it shows the device what is pending and changes none of it. -/
theorem Intact.doorbell (hmap : rings.map = .gfx10) (hcovers : rings.Covers id)
    (hdisjoint : rings.WindowsDisjoint) (hintact : h.Intact rings id status) :
    ∃ status', (h.step rings id .doorbell).Intact rings id status' ∧ SamePlace status status' := by
  have hstatus := hintact.status_eq
  cases hreturned : h.returned with
  | none =>
    refine ⟨status, ?_, rfl, rfl⟩
    simp only [step, hreturned]
    exact hintact
  | some ptr =>
    have hptr : ptr = RingAccess.writePtr h.now status := hintact.returned_eq ptr hreturned
    let status' : RingStatus := { status with writePtr := ptr }
    let now : RingMemory := ⟨rings.announced id ptr h.now.memory, h.now.pointers.set id ptr⟩
    have hstep : h.step rings id .doorbell = { h with now } := by
      simp only [step, hreturned, RingAccess.ringDoorbell_of_lt ptr h.now
        (RingAccess.status_spec hstatus).1, now]
    have hid : status'.id = id := (RingAccess.status_spec hstatus).2
    have hnow : RingAccess.writePtr now status' = ptr :=
      RingAccess.writePtr_set hid _ _ _
    have hbacklog : rings.backlog now status' = rings.backlog h.now status := by
      change slotsBetween _ _ (RingAccess.writePtr now status').toNat = _
      rw [hnow, hptr]
      rfl
    have hpending : rings.pending now status' = rings.pending h.now status := by
      rw [RingAccess.pending, hbacklog]
      exact RingStore.words_congr_of_sameBytes hintact.reachable.visible
        (RingAccess.sameBytes_announced_aperture hdisjoint id ptr h.now.memory) _ _
    rw [hstep]
    refine ⟨status', ⟨?_, hintact.enabled, hintact.reachable, ?_, ?_, ?_⟩, rfl, rfl⟩
    · exact RingAccess.status_announced hmap hdisjoint
        (RingAccess.admits_wptrOffset hmap hcovers) hstatus _ ptr
    · change slotsBetween _ _ ptr.toNat ≤ slotsBetween _ _ (RingAccess.writePtr now status').toNat
      rw [hnow]
    · rw [hpending]
      exact hintact.conserved
    · intro other hother
      rw [hnow]
      exact Option.some.inj (hother.symm.trans hreturned)

/-- A fetch keeps the ring intact: the words that the device takes are the first that were
pending. -/
theorem Intact.fetch (hmap : rings.map = .gfx10) (hcovers : rings.Covers id)
    (hdisjoint : rings.WindowsDisjoint) (hintact : h.Intact rings id status) (count : Nat) :
    ∃ status', (h.step rings id (.fetch count)).Intact rings id status' ∧
      SamePlace status status' := by
  have hstatus := hintact.status_eq
  have hreach := hintact.reachable
  have hslots := hreach.visible.1
  by_cases hcount : count ≤ rings.announcedCount status
  · let readPtr := UInt32.ofNat ((status.readPtr.toNat + count) % (rings.store status).slots)
    let status' : RingStatus := { status with readPtr }
    let place := rings.map.ringBlock id + rings.map.ring.rptr
    let now : RingMemory :=
      { h.now with memory := rings.registers.write32 h.now.memory place readPtr }
    have hreadPtr : readPtr.toNat =
        (status.readPtr.toNat + count) % (rings.store status).slots :=
      hreach.toNat_advance status.readPtr count
    have hstep : h.step rings id (.fetch count) = { h with
        now, fetched := h.fetched ++
          (rings.store status).words h.now.memory status.readPtr.toNat count } := by
      simp only [step, hstatus, if_pos hcount]
      rfl
    have hbacklog : rings.backlog now status' = rings.backlog h.now status - count := by
      change slotsBetween _ readPtr.toNat _ = _
      rw [hreadPtr]
      exact slotsBetween_advance hslots (hcount.trans hintact.announced_le)
    have hannounced : rings.announcedCount status' = rings.announcedCount status - count := by
      change slotsBetween _ readPtr.toNat _ = _
      rw [hreadPtr]
      exact slotsBetween_advance hslots hcount
    have hsame : rings.aperture.window.SameBytes h.now.memory now.memory :=
      Window.sameBytes_write32OrDrop hdisjoint.registers_aperture h.now.memory _ _
    have hpending : (rings.store status).words h.now.memory status.readPtr.toNat count ++
        rings.pending now status' = rings.pending h.now status := by
      have hsplit : rings.backlog h.now status = count + (rings.backlog h.now status - count) := by
        have hle := hcount.trans hintact.announced_le
        omega
      have hmod : readPtr.toNat % (rings.store status).slots =
          (status.readPtr.toNat + count) % (rings.store status).slots := by
        rw [hreadPtr, Nat.mod_mod]
      have hkept : rings.pending now status' =
          (rings.store status).words h.now.memory (status.readPtr.toNat + count)
            (rings.backlog h.now status - count) := by
        rw [RingAccess.pending, hbacklog]
        exact (RingStore.words_congr_of_sameBytes hreach.visible hsame _ _).trans
          (RingStore.words_mod_congr hmod _)
      rw [hkept, ← RingStore.words_add, ← hsplit, RingAccess.pending]
    rw [hstep]
    refine ⟨status', ⟨?_, hintact.enabled, hreach, ?_, ?_, hintact.returned_eq⟩, rfl, rfl⟩
    · exact RingAccess.status_write_rptr hmap hcovers hstatus _ readPtr
    · rw [hbacklog, hannounced]
      exact Nat.sub_le_sub_right hintact.announced_le count
    · rw [List.append_assoc, hpending]
      exact hintact.conserved
  · refine ⟨status, ?_, rfl, rfl⟩
    simp only [step, hstatus, if_neg hcount]
    exact hintact

/-- By induction on the actions, every run keeps the ring intact, and in its place. -/
theorem Intact.run (hmap : rings.map = .gfx10) (hcovers : rings.Covers id)
    (hdisjoint : rings.WindowsDisjoint) (hintact : h.Intact rings id status)
    (actions : List RingAction) :
    ∃ status', (h.run rings id actions).Intact rings id status' ∧ SamePlace status status' := by
  induction actions generalizing h status with
  | nil => exact ⟨status, hintact, rfl, rfl⟩
  | cons action actions ih =>
    have hnext : ∃ status', (h.step rings id action).Intact rings id status' ∧
        SamePlace status status' := by
      cases action with
      | submit words => exact ⟨status, hintact.submit hdisjoint words, rfl, rfl⟩
      | doorbell => exact hintact.doorbell hmap hcovers hdisjoint
      | fetch count => exact hintact.fetch hmap hcovers hdisjoint count
    obtain ⟨next, hnext, hbase, hsize⟩ := hnext
    obtain ⟨last, hlast, hbase', hsize'⟩ := ih hnext
    exact ⟨last, hlast, hbase'.trans hbase, hsize'.trans hsize⟩

/-- An empty ring is intact, since nothing was accepted and nothing is pending. -/
theorem intact_of_empty {start : RingMemory} (hempty : rings.Empty id start status) :
    Intact rings id status { now := start } := by
  have hptr : RingAccess.writePtr start status = status.writePtr := by
    rw [RingAccess.writePtr, (RingAccess.status_spec hempty.status_eq).2, hempty.unset,
      Option.getD_none]
  have hbacklog : rings.backlog start status = 0 := by
    apply slotsBetween_eq hempty.reachable.visible.1
    rw [hptr, Nat.add_zero]
    exact hempty.pointers_meet
  refine ⟨hempty.status_eq, hempty.enabled, hempty.reachable, ?_, ?_, ?_⟩
  · rw [RingAccess.announcedCount, RingAccess.backlog, hptr]
  · rw [RingAccess.pending, hbacklog]
    rfl
  · intro ptr hptr
    cases hptr

/-- Words that fit beside the pending ones and the margin are accepted. -/
theorem Intact.accepts (hintact : h.Intact rings id status) {words : List UInt32}
    (hroom : 4 * ((rings.pending h.now status).length + words.length) +
      max rings.margin.toNat 4 ≤ status.size.toNat) :
    (h.step rings id (.submit words)).accepted = h.accepted ++ words := by
  have hstatus := hintact.status_eq
  have hreach := hintact.reachable
  by_cases hwords : words = []
  · subst hwords
    rw [step_submit_ok (RingAccess.submit_nil hstatus hintact.enabled)]
  · obtain ⟨m, hsubmit, _⟩ :=
      RingAccess.submit_of_room hstatus hintact.enabled hwords hreach (hreach.le_room hroom)
    rw [step_submit_ok hsubmit]

/-- From an empty ring, whatever is submitted, announced and fetched in whatever order: the words
that the device has fetched, followed by the dwords from the read pointer to the host's write
pointer, are the words of the accepted submissions. So none is lost, doubled or moved. Submissions
that fit are accepted. -/
theorem fetched_append_pending (hmap : rings.map = .gfx10) (hcovers : rings.Covers id)
    (hdisjoint : rings.WindowsDisjoint) {start : RingMemory}
    (hempty : rings.Empty id start status) (actions : List RingAction) :
    let h := run rings id { now := start } actions
    ∃ status', rings.status h.now id = .ok status' ∧ SamePlace status status' ∧
      h.fetched ++ rings.pending h.now status' = h.accepted ∧
      ∀ words, 4 * ((rings.pending h.now status').length + words.length) +
          max rings.margin.toNat 4 ≤ status.size.toNat →
        (h.step rings id (.submit words)).accepted = h.accepted ++ words := by
  obtain ⟨status', hintact, hplace⟩ :=
    (intact_of_empty hempty).run hmap hcovers hdisjoint actions
  refine ⟨status', hintact.status_eq, hplace, hintact.conserved, ?_⟩
  intro words hroom
  rw [← hplace.2] at hroom
  exact hintact.accepts hroom

end RingHistory

namespace RingAccess

theorem empty_sample : sample.Empty 1 (.sample 64) ⟨1, 0x100, 13, 29, 64, true⟩ where
  status_eq := status_sample 64
  enabled := rfl
  reachable := by decide
  pointers_meet := by decide
  unset := rfl

end RingAccess

/-- Five words go around the end of the ring, and two more come when four of them are fetched. -/
def RingHistory.sample : RingHistory :=
  run .sample 1 { now := .sample 64 }
    [.submit [1, 2, 3, 4, 5], .doorbell, .fetch 4, .submit [6, 7]]

theorem RingHistory.fetched_sample : sample.fetched = [1, 2, 3, 4] := by
  cbv

theorem RingHistory.accepted_sample : sample.accepted = [1, 2, 3, 4, 5, 6, 7] := by
  cbv

/-- Thirteen words are one too many for what is left. -/
theorem RingHistory.submit_sample :
    RingAccess.sample.submit 1 (List.replicate 13 8) sample.now =
      (.error (.ringFull 1 52 48), sample.now) := by
  cbv

/-- Four of the first five words are fetched. The fifth is pending with the two behind it, and
twelve more words fit, but thirteen do not. -/
theorem fetched_append_pending_sample :
    let h := RingHistory.run .sample 1 { now := .sample 64 }
      [.submit [1, 2, 3, 4, 5], .doorbell, .fetch 4, .submit [6, 7]]
    RingAccess.sample.map = .gfx10 ∧ RingAccess.sample.Covers 1 ∧
    RingAccess.sample.WindowsDisjoint ∧
    RingAccess.sample.Empty 1 (.sample 64) ⟨1, 0x100, 13, 29, 64, true⟩ ∧
    h.fetched = [1, 2, 3, 4] ∧ h.accepted = [1, 2, 3, 4, 5, 6, 7] ∧
    (∃ status', RingAccess.sample.status h.now 1 = .ok status' ∧
      RingHistory.SamePlace ⟨1, 0x100, 13, 29, 64, true⟩ status' ∧
      RingAccess.sample.pending h.now status' = [5, 6, 7]) ∧
    (h.step .sample 1 (.submit (List.replicate 12 8))).accepted =
      h.accepted ++ List.replicate 12 8 ∧
    RingAccess.sample.submit 1 (List.replicate 13 8) h.now =
      (.error (.ringFull 1 52 48), h.now) := by
  intro h
  obtain ⟨status', hstatus, hplace, hconserved, haccepts⟩ :=
    RingHistory.fetched_append_pending rfl (by decide) RingAccess.windowsDisjoint_sample
      RingAccess.empty_sample [.submit [1, 2, 3, 4, 5], .doorbell, .fetch 4, .submit [6, 7]]
  have hfetched : h.fetched = [1, 2, 3, 4] := RingHistory.fetched_sample
  have haccepted : h.accepted = [1, 2, 3, 4, 5, 6, 7] := RingHistory.accepted_sample
  have hpending : RingAccess.sample.pending h.now status' = [5, 6, 7] := by
    rw [hfetched, haccepted] at hconserved
    exact List.append_cancel_left hconserved
  refine ⟨rfl, by decide, RingAccess.windowsDisjoint_sample, RingAccess.empty_sample, hfetched,
    haccepted, ⟨status', hstatus, hplace, hpending⟩, haccepts _ ?_, RingHistory.submit_sample⟩
  rw [hpending]
  decide

end GpuControl
