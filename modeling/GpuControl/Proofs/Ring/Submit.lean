import GpuControl.Proofs.Ring.Store

namespace GpuControl

namespace RingAccess

/-- The backing store that the ring's registers describe. -/
def store (rings : RingAccess) (status : RingStatus) : RingStore :=
  ⟨rings.aperture, status.base.toNat, status.size.toNat / 4⟩

/-- Free bytes as a submission sees them. -/
def room (rings : RingAccess) (s : RingMemory) (status : RingStatus) : Nat :=
  (freeSpace status.readPtr (writePtr s status) status.size rings.margin).toNat

/-- Dwords that were submitted and not yet read by the device. -/
def backlog (rings : RingAccess) (s : RingMemory) (status : RingStatus) : Nat :=
  slotsBetween (rings.store status).slots status.readPtr.toNat (writePtr s status).toNat

/-- The pointer `count` slots further on. -/
def advance (rings : RingAccess) (status : RingStatus) (ptr : UInt32) (count : Nat) : UInt32 :=
  UInt32.ofNat ((ptr.toNat + count) % (rings.store status).slots)

/-- The write pointer after `count` more words. -/
def pointerAfter (rings : RingAccess) (s : RingMemory) (status : RingStatus) (count : Nat) :
    UInt32 :=
  UInt32.ofNat (((writePtr s status).toNat + count) % (rings.store status).slots)

/-- The grounds on which words are refused, each with its error. -/
inductive Refusal (rings : RingAccess) (id : UInt8) (words : List UInt32) (s : RingMemory) :
    DriverError → Prop
  | invalid (hid : rings.map.ringCount ≤ id) :
    Refusal rings id words s (.invalidRing id rings.map.ringCount)
  | disabled {status : RingStatus} (hstatus : rings.status s id = .ok status)
    (hdisabled : status.enabled = false) : Refusal rings id words s (.ringDisabled id)
  | unreachable {status : RingStatus} (hstatus : rings.status s id = .ok status)
    (henabled : status.enabled = true) (hwords : words ≠ []) (hreach : ¬rings.Reachable status) :
    Refusal rings id words s (.ringUnreachable id status.base status.size)
  | full {status : RingStatus} (hstatus : rings.status s id = .ok status)
    (henabled : status.enabled = true) (hwords : words ≠ []) (hreach : rings.Reachable status)
    (hfull : rings.room s status < words.length * 4) :
    Refusal rings id words s (.ringFull id (words.length * 4) (rings.room s status))

/-- Everything that a submission can come to. -/
inductive SubmitOutcome (rings : RingAccess) (id : UInt8) (words : List UInt32) (s : RingMemory) :
    Except DriverError UInt32 × RingMemory → Prop
  | refused {e : DriverError} (why : Refusal rings id words s e) :
    SubmitOutcome rings id words s (.error e, s)
  | nothing {status : RingStatus} (hstatus : rings.status s id = .ok status)
    (henabled : status.enabled = true) (hwords : words = []) :
    SubmitOutcome rings id words s (.ok (writePtr s status), s)
  | copied {status : RingStatus} {m : Memory} (hstatus : rings.status s id = .ok status)
    (henabled : status.enabled = true) (hwords : words ≠ []) (hreach : rings.Reachable status)
    (hroom : words.length * 4 ≤ rings.room s status)
    (hcopied : (rings.store status).Copied (writePtr s status).toNat words s.memory m) :
    SubmitOutcome rings id words s (.ok (rings.pointerAfter s status words.length),
      ⟨m, s.pointers.set id (rings.pointerAfter s status words.length)⟩)

variable {rings : RingAccess} {id : UInt8} {s : RingMemory} {status : RingStatus}

theorem checkRing_eq_ok_iff {map : RegisterMap} :
    map.checkRing id = .ok () ↔ id < map.ringCount := by
  unfold RegisterMap.checkRing
  split <;> simp_all

theorem checkRing_eq_error {map : RegisterMap} (hid : map.ringCount ≤ id) :
    map.checkRing id = .error (.invalidRing id map.ringCount) :=
  if_neg (UInt8.not_lt.2 hid)

/-- The status of a ring that exists is read off its block. -/
theorem status_of_lt (rings : RingAccess) (s : RingMemory) (hid : id < rings.map.ringCount) :
    rings.status s id = .ok {
      id := id
      base := rings.registers.read64 s.memory (rings.map.ringBlock id + rings.map.ring.base)
      readPtr := rings.registers.read32 s.memory (rings.map.ringBlock id + rings.map.ring.rptr)
      writePtr := rings.registers.read32 s.memory (rings.map.ringBlock id + rings.map.ring.wptr)
      size := rings.registers.read32 s.memory (rings.map.ringBlock id + rings.map.ring.size)
      enabled := rings.registers.read32 s.memory (rings.map.ringBlock id + rings.map.ring.cntl) &&&
        rings.map.ring.enableBit != 0 } := by
  unfold RingAccess.status RegisterBlock.ringStatus
  rw [checkRing_eq_ok_iff.2 hid]

/-- A ring that does not exist has no status. -/
theorem status_of_le (s : RingMemory) (hid : rings.map.ringCount ≤ id) :
    rings.status s id = .error (.invalidRing id rings.map.ringCount) := by
  unfold RingAccess.status RegisterBlock.ringStatus
  rw [checkRing_eq_error hid]

theorem status_spec (hstatus : rings.status s id = .ok status) :
    id < rings.map.ringCount ∧ status.id = id := by
  by_cases hid : id < rings.map.ringCount
  · rw [status_of_lt rings s hid] at hstatus
    cases hstatus
    exact ⟨hid, rfl⟩
  · rw [status_of_le s (UInt8.not_lt.1 hid)] at hstatus
    cases hstatus

/-- The host's pointer stands in for the register once it is set. -/
theorem writePtr_eq (hstatus : rings.status s id = .ok status) :
    writePtr s status = (s.pointers.get id).getD
      (rings.registers.read32 s.memory (rings.map.ringBlock id + rings.map.ring.wptr)) := by
  rw [status_of_lt rings s (status_spec hstatus).1] at hstatus
  cases hstatus
  rfl

/-- The host's own write pointer goes before the register's. -/
theorem writePtr_of_get (hid : status.id = id) {ptr : UInt32}
    (hget : s.pointers.get id = some ptr) : writePtr s status = ptr := by
  rw [writePtr, hid, hget, Option.getD_some]

theorem writePtr_set (hid : status.id = id) (m : Memory) (pointers : WritePointers)
    (ptr : UInt32) : writePtr ⟨m, pointers.set id ptr⟩ status = ptr :=
  writePtr_of_get hid (WritePointers.get_set_self _ _ _)

/-- The free space that is reported is the space that a submission goes by. -/
theorem freeBytes_eq (hstatus : rings.status s id = .ok status) :
    rings.freeBytes s id =
      .ok (freeSpace status.readPtr (writePtr s status) status.size rings.margin) := by
  rw [freeBytes, hstatus]
  rfl

/-- A reachable store has whole slots. -/
theorem Reachable.size_eq (hreach : rings.Reachable status) :
    status.size.toNat = 4 * (rings.store status).slots := by
  obtain ⟨-, hdwords, -⟩ := hreach
  change _ = 4 * (status.size.toNat / 4)
  omega

theorem Reachable.visible (hreach : rings.Reachable status) : (rings.store status).Visible := by
  have hsize := hreach.size_eq
  obtain ⟨hpos, -, hin⟩ := hreach
  refine ⟨by omega, ?_⟩
  rw [← hsize]
  exact hin

theorem Reachable.ringOffset_eq (hreach : rings.Reachable status) (ptr : UInt32) :
    (ringOffset ptr status.size).toNat = 4 * (ptr.toNat % (rings.store status).slots) := by
  rw [toNat_ringOffset ptr hreach.1, hreach.size_eq, Nat.mul_mod_mul_left]

/-- The room is what the backlog and the margin leave of the slots. -/
theorem Reachable.room_eq (hreach : rings.Reachable status) (s : RingMemory) :
    rings.room s status = 4 * (rings.store status).slots - 4 * rings.backlog s status -
      max rings.margin.toNat 4 := by
  rw [room, backlog, toNat_freeSpace hreach.1, hreach.size_eq, slotsBetween_mul_four]

/-- Words that are let in leave a slot free behind them. -/
theorem Reachable.lt_slots_of_room (hreach : rings.Reachable status) {count : Nat}
    (hcount : 0 < count) (hroom : count * 4 ≤ rings.room s status) :
    rings.backlog s status + count < (rings.store status).slots := by
  rw [hreach.room_eq] at hroom
  omega

/-- Pointers advance around the slots. -/
theorem Reachable.toNat_advance (hreach : rings.Reachable status) (ptr : UInt32) (count : Nat) :
    (rings.advance status ptr count).toNat =
      (ptr.toNat + count) % (rings.store status).slots := by
  have hbound := status.size.toNat_lt
  have hsize := hreach.size_eq
  have hmod := Nat.mod_lt (ptr.toNat + count) hreach.visible.1
  rw [advance, UInt32.toNat_ofNat', Nat.mod_eq_of_lt (by omega)]

/-- Advancing twice is advancing once, by both counts. -/
theorem Reachable.advance_advance (hreach : rings.Reachable status) (ptr : UInt32)
    (first second : Nat) :
    rings.advance status (rings.advance status ptr first) second =
      rings.advance status ptr (first + second) := by
  apply UInt32.toNat_inj.1
  rw [hreach.toNat_advance, hreach.toNat_advance, hreach.toNat_advance, Nat.mod_add_mod,
    Nat.add_assoc]

theorem Reachable.toNat_pointerAfter (hreach : rings.Reachable status) (s : RingMemory)
    (count : Nat) : (rings.pointerAfter s status count).toNat =
      ((writePtr s status).toNat + count) % (rings.store status).slots :=
  hreach.toNat_advance (writePtr s status) count

/-- The backlog grows by the words, because they end before the read pointer is met again. -/
theorem Reachable.backlog_set_pointerAfter (hreach : rings.Reachable status)
    (hstatus : rings.status s id = .ok status) (m : Memory) {count : Nat}
    (hfits : rings.backlog s status + count < (rings.store status).slots) :
    rings.backlog ⟨m, s.pointers.set id (rings.pointerAfter s status count)⟩ status =
      rings.backlog s status + count := by
  have hfrom : (status.readPtr.toNat + rings.backlog s status) % (rings.store status).slots =
      (writePtr s status).toNat % (rings.store status).slots :=
    add_slotsBetween_mod hreach.visible.1 _ _
  apply slotsBetween_eq hfits
  rw [writePtr_set (status_spec hstatus).2, hreach.toNat_pointerAfter, Nat.mod_mod, ← Nat.add_assoc,
    ← Nat.mod_add_mod, hfrom, Nat.mod_add_mod]

/-- Words that are let in take as much of the free space as they are long. -/
theorem Reachable.room_set_pointerAfter (hreach : rings.Reachable status)
    (hstatus : rings.status s id = .ok status) (m : Memory) {count : Nat} (hcount : 0 < count)
    (hroom : count * 4 ≤ rings.room s status) :
    rings.room ⟨m, s.pointers.set id (rings.pointerAfter s status count)⟩ status + count * 4 =
      rings.room s status := by
  have hbacklog := hreach.backlog_set_pointerAfter hstatus m
    (hreach.lt_slots_of_room hcount hroom)
  rw [hreach.room_eq] at hroom ⊢
  rw [hreach.room_eq, hbacklog]
  omega

/-- A reason to refuse makes a submission fail, with nothing changed. -/
theorem submit_of_refusal {words : List UInt32} {e : DriverError}
    (why : Refusal rings id words s e) : rings.submit id words s = (.error e, s) := by
  cases why with
  | invalid hid =>
    rw [submit, status_of_le s hid]
  | disabled hstatus hdisabled =>
    simp only [submit, hstatus, hdisabled, Bool.not_false, if_true]
  | unreachable hstatus henabled hwords hreach =>
    simp only [submit, hstatus, henabled, List.isEmpty_iff, hwords, hreach, Bool.not_true,
      Bool.false_eq_true, not_false_eq_true, if_true, if_false]
  | @full status hstatus henabled hwords hreach hfull =>
    have hfree : (freeSpace status.readPtr (writePtr s status) status.size rings.margin).toNat =
        rings.room s status := rfl
    simp only [submit, hstatus, henabled, List.isEmpty_iff, hwords, hreach, hfree, hfull,
      Bool.not_true, Bool.false_eq_true, not_true_eq_false, if_true, if_false]

/-- Submitting no words to an enabled ring only reads its pointer. -/
theorem submit_nil (hstatus : rings.status s id = .ok status) (henabled : status.enabled = true) :
    rings.submit id [] s = (.ok (writePtr s status), s) := by
  simp only [submit, hstatus, henabled, Bool.not_true, Bool.false_eq_true, List.isEmpty_nil,
    if_true, if_false]

/-- Once the checks are passed the copy cannot fail half-way. -/
theorem submit_of_room {words : List UInt32} (hstatus : rings.status s id = .ok status)
    (henabled : status.enabled = true) (hwords : words ≠ []) (hreach : rings.Reachable status)
    (hroom : words.length * 4 ≤ rings.room s status) :
    ∃ m, rings.submit id words s = (.ok (rings.pointerAfter s status words.length),
        ⟨m, s.pointers.set id (rings.pointerAfter s status words.length)⟩) ∧
      (rings.store status).Copied (writePtr s status).toNat words s.memory m := by
  have hcount : 0 < words.length := List.length_pos_iff.2 hwords
  have hfits := hreach.lt_slots_of_room hcount hroom
  obtain ⟨m, hwrite, hcopied⟩ := RingStore.writeRing_copied hreach.visible s.memory
    (writePtr s status).toNat words (Nat.le_of_lt (by omega))
  have hnext : (4 * ((writePtr s status).toNat % (rings.store status).slots) +
      words.length * 4) % (4 * (rings.store status).slots) / 4 =
      ((writePtr s status).toNat + words.length) % (rings.store status).slots := by
    rw [Nat.mul_comm words.length 4, ← Nat.mul_add, Nat.mul_mod_mul_left,
      Nat.mul_div_cancel_left _ (by omega), Nat.mod_add_mod]
  have hfree : ¬(freeSpace status.readPtr (writePtr s status) status.size rings.margin).toNat <
      words.length * 4 := Nat.not_lt.2 hroom
  have hcopy : rings.aperture.writeRing s.memory status.base.toNat
      (4 * (rings.store status).slots)
      (4 * ((writePtr s status).toNat % (rings.store status).slots)) words = (true, m) := hwrite
  refine ⟨m, ?_, hcopied⟩
  simp only [submit, hstatus, henabled, List.isEmpty_iff, hwords, hreach, hfree, Bool.not_true,
    Bool.false_eq_true, not_true_eq_false, if_false, hreach.ringOffset_eq, hreach.size_eq, hcopy,
    hnext, pointerAfter]

/-- Words for which there is room are accepted, and lie in the ring from the host's pointer on. -/
theorem submit_lands {words : List UInt32} (hstatus : rings.status s id = .ok status)
    (henabled : status.enabled = true) (hwords : words ≠ []) (hreach : rings.Reachable status)
    (hroom : words.length * 4 ≤ rings.room s status) :
    (rings.submit id words s).1 = .ok (rings.pointerAfter s status words.length) ∧
      (rings.store status).words (rings.submit id words s).2.memory (writePtr s status).toNat
        words.length = words := by
  obtain ⟨m, hsubmit, hcopied⟩ := submit_of_room hstatus henabled hwords hreach hroom
  rw [hsubmit]
  exact ⟨rfl, hcopied.lands⟩

/-- A submission always comes to one of these. -/
theorem submit_outcome (rings : RingAccess) (id : UInt8) (words : List UInt32) (s : RingMemory) :
    SubmitOutcome rings id words s (rings.submit id words s) := by
  have refused {e : DriverError} (why : Refusal rings id words s e) :
      SubmitOutcome rings id words s (rings.submit id words s) := by
    rw [submit_of_refusal why]
    exact .refused why
  by_cases hid : id < rings.map.ringCount
  · obtain ⟨status, hstatus⟩ : ∃ status, rings.status s id = .ok status :=
      ⟨_, status_of_lt rings s hid⟩
    cases henabled : status.enabled with
    | false => exact refused (.disabled hstatus henabled)
    | true =>
      by_cases hwords : words = []
      · subst hwords
        rw [submit_nil hstatus henabled]
        exact .nothing hstatus henabled rfl
      · by_cases hreach : rings.Reachable status
        · by_cases hroom : words.length * 4 ≤ rings.room s status
          · obtain ⟨m, hsubmit, hcopied⟩ := submit_of_room hstatus henabled hwords hreach hroom
            rw [hsubmit]
            exact .copied hstatus henabled hwords hreach hroom hcopied
          · exact refused (.full hstatus henabled hwords hreach (Nat.lt_of_not_le hroom))
        · exact refused (.unreachable hstatus henabled hwords hreach)
  · exact refused (.invalid (UInt8.not_lt.1 hid))

/-- Words are accepted only where every check is passed. -/
theorem accepted_of_submit {words : List UInt32} {ptr : UInt32} {after : RingMemory}
    (hsubmit : rings.submit id words s = (.ok ptr, after)) (hwords : words ≠ []) :
    ∃ status, rings.status s id = .ok status ∧ status.enabled = true ∧ rings.Reachable status ∧
      words.length * 4 ≤ rings.room s status ∧ ptr = rings.pointerAfter s status words.length := by
  have houtcome := submit_outcome rings id words s
  rw [hsubmit] at houtcome
  cases houtcome with
  | nothing _ _ hnil => exact absurd hnil hwords
  | copied hstatus henabled _ hreach hroom => exact ⟨_, hstatus, henabled, hreach, hroom, rfl⟩

/-- Whether it is accepted or not, a submission touches nothing outside the aperture. -/
theorem sameBytes_submit {w : Window} (hdisjoint : rings.aperture.window.Disjoint w) (id : UInt8)
    (words : List UInt32) (s : RingMemory) :
    w.SameBytes s.memory (rings.submit id words s).2.memory := by
  have houtcome := submit_outcome rings id words s
  generalize rings.submit id words s = result at houtcome
  cases houtcome with
  | refused => exact fun _ _ => rfl
  | nothing => exact fun _ _ => rfl
  | copied _ _ _ hreach _ hcopied => exact hcopied.sameBytes hreach.visible hdisjoint

end RingAccess

end GpuControl
