import GpuControl.Proofs.Ring.Submit

namespace GpuControl

namespace RingStore

variable {b : RingStore} {m m' : Memory} {first : Nat} {ws : List UInt32}

/-- The place of the `j`-th byte after a pointer, around the end of the ring if need be. -/
def byteCell (b : RingStore) (ptr j : Nat) : Cell :=
  b.aperture.window.cell (b.base + (4 * ptr + j) % (4 * b.slots))

theorem byteCell_eq (b : RingStore) (ptr j : Nat) :
    b.byteCell ptr j = (b.slot (ptr + j / 4)).advance (j % 4) := by
  have hsplit : 4 * ptr + j = 4 * (ptr + j / 4) + j % 4 := by omega
  have hbyte : (4 * (ptr + j / 4) + j % 4) % (4 * b.slots) =
      4 * ((ptr + j / 4) % b.slots) + j % 4 := by
    rw [Nat.mod_mul, Nat.mul_add_mod, Nat.mod_mod, Nat.mul_add_div (by decide),
      Nat.div_eq_of_lt (Nat.mod_lt _ (by decide)), Nat.add_zero, Nat.add_comm]
  rw [byteCell, hsplit, hbyte, slot, Window.cell, Window.cell, Cell.advance_advance, Nat.add_assoc]

/-- The bytes of the words that were copied lie one after the other. -/
theorem Copied.getElem?_dwords (hcopied : b.Copied first ws m m') {j : Nat}
    (hj : j < 4 * ws.length) :
    (LittleEndian.dwords ws)[j]? = some (m'.byte (b.byteCell first j)) := by
  have hi : j / 4 < ws.length := by omega
  have hword : ws[j / 4] = m'.loadDword (b.slot (first + j / 4)) := by
    have hlands := hcopied.lands
    conv => lhs; rw [List.getElem_of_eq hlands.symm hi]
    simp only [words, List.getElem_map, List.getElem_range]
  have hbytes : ((LittleEndian.dwords ws).drop (4 * (j / 4))).take 4 =
      m'.load (b.slot (first + j / 4)) 4 := by
    rw [LittleEndian.word_of_dwords hi, hword, Memory.dword_loadDword]
  have hj4 : j % 4 < 4 := Nat.mod_lt _ (by decide)
  calc (LittleEndian.dwords ws)[j]?
      = (((LittleEndian.dwords ws).drop (4 * (j / 4))).take 4)[j % 4]? := by
        rw [List.getElem?_take_of_lt hj4, List.getElem?_drop, Nat.div_add_mod]
    _ = some (m'.byte (b.byteCell first j)) := by
        rw [hbytes, byteCell_eq, Memory.load, List.getElem?_map, List.getElem?_range hj4,
          Option.map_some]

/-- No other byte changes. -/
theorem Copied.byte_eq (hcopied : b.Copied first ws m m') {c : Cell}
    (hout : ∀ j < 4 * ws.length, c ≠ b.byteCell first j) : m'.byte c = m.byte c := by
  apply hcopied.frame
  intro i hi hin
  obtain ⟨k, hk, rfl⟩ := Cell.within_iff.1 hin
  refine hout (4 * i + k) (by omega) ?_
  rw [byteCell_eq, Nat.mul_add_div (by decide), Nat.div_eq_of_lt hk, Nat.mul_add_mod,
    Nat.mod_eq_of_lt hk, Nat.add_zero]

/-- Where two memories hold the same byte, they do so after the same copy. -/
theorem Copied.byte_congr {n n' : Memory} (hcopied : b.Copied first ws m m')
    (hcopied' : b.Copied first ws n n') {c : Cell} (hbyte : n.byte c = m.byte c) :
    n'.byte c = m'.byte c := by
  by_cases hin : ∃ j < 4 * ws.length, c = b.byteCell first j
  · obtain ⟨j, hj, rfl⟩ := hin
    exact Option.some.inj ((hcopied'.getElem?_dwords hj).symm.trans (hcopied.getElem?_dwords hj))
  · have hout : ∀ j < 4 * ws.length, c ≠ b.byteCell first j :=
      fun j hj heq => hin ⟨j, hj, heq⟩
    rw [hcopied.byte_eq hout, hcopied'.byte_eq hout, hbyte]

end RingStore

namespace RingAccess

variable {rings : RingAccess} {id : UInt8} {words : List UInt32} {s : RingMemory} {e : DriverError}
  {status : RingStatus}

/-- What the register block of ring `id` reads as. -/
def snapshot (rings : RingAccess) (s : RingMemory) (id : UInt8) : RingStatus where
  id := id
  base := rings.registers.read64 s.memory (rings.map.ringBlock id + rings.map.ring.base)
  readPtr := rings.registers.read32 s.memory (rings.map.ringBlock id + rings.map.ring.rptr)
  writePtr := rings.registers.read32 s.memory (rings.map.ringBlock id + rings.map.ring.wptr)
  size := rings.registers.read32 s.memory (rings.map.ringBlock id + rings.map.ring.size)
  enabled := rings.registers.read32 s.memory (rings.map.ringBlock id + rings.map.ring.cntl) &&&
    rings.map.ring.enableBit != 0

/-- The status of a ring is what its registers read as, if there is such a ring. -/
theorem status_eq_ok_iff :
    rings.status s id = .ok status ↔ id < rings.map.ringCount ∧ status = rings.snapshot s id := by
  constructor
  · intro hstatus
    have hid := (status_spec hstatus).1
    rw [status_of_lt rings s hid] at hstatus
    cases hstatus
    exact ⟨hid, rfl⟩
  · rintro ⟨hid, rfl⟩
    exact status_of_lt rings s hid

/-- An error says on which ground the words were refused. -/
theorem submit_eq_error_iff :
    (rings.submit id words s).1 = .error e ↔ rings.Refusal id words s e := by
  constructor
  · intro hsubmit
    have houtcome := submit_outcome rings id words s
    generalize rings.submit id words s = result at houtcome hsubmit
    cases houtcome with
    | refused why =>
      cases hsubmit
      exact why
    | nothing => cases hsubmit
    | copied => cases hsubmit
  · intro why
    rw [submit_of_refusal why]

theorem refusal_invalidRing_iff :
    rings.Refusal id words s (.invalidRing id rings.map.ringCount) ↔ ¬id < rings.map.ringCount := by
  rw [UInt8.not_lt]
  constructor
  · rintro ⟨hid⟩
    exact hid
  · exact .invalid

theorem refusal_ringDisabled_iff :
    rings.Refusal id words s (.ringDisabled id) ↔
      id < rings.map.ringCount ∧ (rings.snapshot s id).enabled = false := by
  constructor
  · intro why
    cases why with
    | disabled hstatus hdisabled =>
      obtain ⟨hid, rfl⟩ := status_eq_ok_iff.1 hstatus
      exact ⟨hid, hdisabled⟩
  · rintro ⟨hid, hdisabled⟩
    exact .disabled (status_of_lt rings s hid) hdisabled

/-- A store is unreachable only where the checks before it let the words pass. -/
theorem refusal_ringUnreachable_iff :
    rings.Refusal id words s (.ringUnreachable id (rings.snapshot s id).base
        (rings.snapshot s id).size) ↔
      id < rings.map.ringCount ∧ (rings.snapshot s id).enabled = true ∧ words ≠ [] ∧
        ¬rings.Reachable (rings.snapshot s id) := by
  constructor
  · generalize hbase : (rings.snapshot s id).base = base
    generalize hsize : (rings.snapshot s id).size = size
    intro why
    cases why with
    | unreachable hstatus henabled hwords hreach =>
      obtain ⟨hid, rfl⟩ := status_eq_ok_iff.1 hstatus
      exact ⟨hid, henabled, hwords, hreach⟩
  · rintro ⟨hid, henabled, hwords, hreach⟩
    exact .unreachable (status_of_lt rings s hid) henabled hwords hreach

/-- A ring is full only where no other check refuses the words. -/
theorem refusal_ringFull_iff :
    rings.Refusal id words s (.ringFull id (words.length * 4)
        (rings.room s (rings.snapshot s id))) ↔
      id < rings.map.ringCount ∧ (rings.snapshot s id).enabled = true ∧ words ≠ [] ∧
        rings.Reachable (rings.snapshot s id) ∧
        rings.room s (rings.snapshot s id) < words.length * 4 := by
  constructor
  · generalize hroom : rings.room s (rings.snapshot s id) = room
    intro why
    cases why with
    | full hstatus henabled hwords hreach hfull =>
      obtain ⟨hid, rfl⟩ := status_eq_ok_iff.1 hstatus
      exact ⟨hid, henabled, hwords, hreach, hfull⟩
  · rintro ⟨hid, henabled, hwords, hreach, hfull⟩
    exact .full (status_of_lt rings s hid) henabled hwords hreach hfull

/-- There are no other errors. -/
theorem Refusal.cases_of_error (why : rings.Refusal id words s e) :
    e = .invalidRing id rings.map.ringCount ∨ e = .ringDisabled id ∨
    e = .ringUnreachable id (rings.snapshot s id).base (rings.snapshot s id).size ∨
    e = .ringFull id (words.length * 4) (rings.room s (rings.snapshot s id)) := by
  cases why with
  | invalid => exact .inl rfl
  | disabled => exact .inr (.inl rfl)
  | unreachable hstatus =>
    obtain ⟨-, rfl⟩ := status_eq_ok_iff.1 hstatus
    exact .inr (.inr (.inl rfl))
  | full hstatus =>
    obtain ⟨-, rfl⟩ := status_eq_ok_iff.1 hstatus
    exact .inr (.inr (.inr rfl))

/-- A submission in full. The errors are looked for in the order in which they stand here, and after
any of them everything is as it was. If there is none, no words leave everything as it was too, and
other words lie in the ring byte by byte from the write pointer on, around the end of the ring if
need be. Then the write pointer stands after them, and no other byte of memory and no other ring's
pointer has changed. -/
theorem submit_effect (rings : RingAccess) (id : UInt8) (words : List UInt32) (s : RingMemory) :
    let count := words.length
    let status := rings.snapshot s id
    let known := id < rings.map.ringCount
    let enabled := status.enabled = true
    let reachable := 0 < status.size.toNat ∧ status.size.toNat % 4 = 0 ∧
      status.base.toNat + status.size.toNat ≤ rings.aperture.visibleLen
    let old := (s.pointers.get id).getD status.writePtr
    let free := (freeSpace status.readPtr old status.size rings.margin).toNat
    let place (j : Nat) := rings.aperture.window.cell
      (status.base.toNat + (4 * old.toNat + j) % status.size.toNat)
    let result := (rings.submit id words s).1
    let after := (rings.submit id words s).2
    (result = .error (.invalidRing id rings.map.ringCount) ↔ ¬known) ∧
    (result = .error (.ringDisabled id) ↔ known ∧ ¬enabled) ∧
    (result = .error (.ringUnreachable id status.base status.size) ↔
      known ∧ enabled ∧ words ≠ [] ∧ ¬reachable) ∧
    (result = .error (.ringFull id (count * 4) free) ↔
      known ∧ enabled ∧ words ≠ [] ∧ reachable ∧ free < count * 4) ∧
    (∀ e, result = .error e → after = s ∧
      (e = .invalidRing id rings.map.ringCount ∨ e = .ringDisabled id ∨
        e = .ringUnreachable id status.base status.size ∨ e = .ringFull id (count * 4) free)) ∧
    (∀ ptr, result = .ok ptr → words = [] → ptr = old ∧ after = s) ∧
    ∀ ptr, result = .ok ptr → words ≠ [] →
      ptr.toNat = (old.toNat + count) % (status.size.toNat / 4) ∧
      after.pointers.get id = some ptr ∧
      (∀ other, other ≠ id → after.pointers.get other = s.pointers.get other) ∧
      (∀ j < 4 * count, (LittleEndian.dwords words)[j]? = some (after.memory.byte (place j))) ∧
      (∀ c, (∀ j < 4 * count, c ≠ place j) → after.memory.byte c = s.memory.byte c) ∧
      ∀ w : Window, rings.aperture.window.Disjoint w → w.SameBytes s.memory after.memory := by
  intro count status known enabled reachable old free place result after
  have houtcome : rings.SubmitOutcome id words s (result, after) := submit_outcome ..
  refine ⟨?_, ?_, ?_, ?_, ?_, ?_, ?_⟩
  · exact submit_eq_error_iff.trans refusal_invalidRing_iff
  · rw [Bool.not_eq_true]
    exact submit_eq_error_iff.trans refusal_ringDisabled_iff
  · exact submit_eq_error_iff.trans refusal_ringUnreachable_iff
  · exact submit_eq_error_iff.trans refusal_ringFull_iff
  · intro e herror
    refine ⟨?_, (submit_eq_error_iff.1 herror).cases_of_error⟩
    rw [herror] at houtcome
    clear_value after
    cases houtcome
    rfl
  · intro ptr hok hwords
    rw [hok] at houtcome
    clear_value after
    cases houtcome with
    | nothing hstatus =>
      obtain ⟨-, rfl⟩ := status_eq_ok_iff.1 hstatus
      exact ⟨rfl, rfl⟩
    | copied _ _ hne => exact absurd hwords hne
  · intro ptr hok hwords
    rw [hok] at houtcome
    clear_value after
    cases houtcome with
    | nothing _ _ hnil => exact absurd hnil hwords
    | @copied _ m hstatus _ _ hreach _ hcopied =>
      obtain ⟨-, rfl⟩ := status_eq_ok_iff.1 hstatus
      have hplace (j : Nat) : place j = (rings.store status).byteCell old.toNat j := by
        rw [RingStore.byteCell, ← hreach.size_eq]
        rfl
      refine ⟨hreach.toNat_pointerAfter s count, WritePointers.get_set_self _ _ _, ?_, ?_, ?_, ?_⟩
      · intro other hother
        exact WritePointers.get_set_of_ne _ _ hother
      · intro j hj
        rw [hplace]
        exact hcopied.getElem?_dwords hj
      · intro c hout
        simp only [hplace] at hout
        exact hcopied.byte_eq hout
      · intro w hdisjoint
        exact hcopied.sameBytes hreach.visible hdisjoint

end RingAccess

end GpuControl
