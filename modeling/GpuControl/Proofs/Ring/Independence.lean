import GpuControl.Proofs.Ring.Doorbell
import GpuControl.Proofs.Ring.Effect

namespace GpuControl

/-- A call on a ring. -/
inductive RingCall where
  | submit (words : List UInt32)
  | doorbell (writePtr : UInt32)

/-- What a call returns if it succeeds. -/
def RingCall.Reply : RingCall → Type
  | submit _ => UInt32
  | doorbell _ => Unit

namespace RingAccess

/-- Makes a call on ring `id`. -/
def perform (rings : RingAccess) (id : UInt8) :
    (call : RingCall) → RingMemory → Except DriverError call.Reply × RingMemory
  | .submit words, s => rings.submit id words s
  | .doorbell writePtr, s => rings.ringDoorbell id writePtr s

/-- The byte is a visible byte of the ring's backing store. -/
def Backs (rings : RingAccess) (status : RingStatus) (c : Cell) : Prop :=
  rings.aperture.window.Owns c ∧
    c.Within (rings.aperture.window.cell status.base.toNat) status.size.toNat

/-- The device addresses of two backing stores, as the rings' registers describe them, do not
overlap. -/
def StoresApart (rings : RingAccess) (s : RingMemory) (i j : UInt8) : Prop :=
  ∀ first second, rings.status s i = .ok first → rings.status s j = .ok second →
    ∀ address, first.base.toNat ≤ address → address < first.base.toNat + first.size.toNat →
      ¬(second.base.toNat ≤ address ∧ address < second.base.toNat + second.size.toNat)

/-- The bytes that belong to ring `id`. -/
inductive Territory (rings : RingAccess) (id : UInt8) (s : RingMemory) (c : Cell) : Prop
  | register (hadmits : rings.registers.window.Admits (rings.wptrOffset id) 4)
    (hc : c.Within (rings.registers.window.cell (rings.wptrOffset id)) 4)
  | slot {d : DoorbellWindow} (hd : rings.doorbell = some d)
    (hadmits : d.window.Admits (rings.slotOffset id d) 4)
    (hc : c.Within (d.window.cell (rings.slotOffset id d)) 4)
  | store {status : RingStatus} (hstatus : rings.status s id = .ok status)
    (hc : rings.Backs status c)

/-- Ring `id` is the same in both states, as far as calls on it look. -/
structure SameRing (rings : RingAccess) (id : UInt8) (s s' : RingMemory) : Prop where
  status_eq : rings.status s' id = rings.status s id
  get_eq : s'.pointers.get id = s.pointers.get id

variable {rings : RingAccess} {i j id : UInt8} {s s' : RingMemory} {status : RingStatus}
  {call first second : RingCall} {c : Cell}

section Territory

/-- The slots of a reachable ring lie in its backing store. -/
theorem Reachable.backs_of_within_slot (hreach : rings.Reachable status) {ptr : Nat}
    (hc : c.Within ((rings.store status).slot ptr) 4) : rings.Backs status c := by
  have hsize := hreach.size_eq
  have hmod := Nat.mod_lt ptr hreach.visible.1
  refine ⟨RingStore.owns_of_within_slot hreach.visible hc, ?_⟩
  obtain ⟨k, hk, rfl⟩ := Cell.within_iff.1 hc
  refine Cell.within_iff.2 ⟨4 * (ptr % (rings.store status).slots) + k, by omega, ?_⟩
  simp only [RingStore.slot, store, Window.cell, Cell.advance_advance, Nat.add_assoc]

/-- States that agree on a ring agree on its territory. -/
theorem SameRing.territory_iff (hsame : rings.SameRing id s s') :
    rings.Territory id s' c ↔ rings.Territory id s c := by
  constructor
  · rintro (⟨hadmits, hc⟩ | ⟨hd, hadmits, hc⟩ | ⟨hstatus, hc⟩)
    · exact .register hadmits hc
    · exact .slot hd hadmits hc
    · exact .store (hsame.status_eq.symm.trans hstatus) hc
  · rintro (⟨hadmits, hc⟩ | ⟨hd, hadmits, hc⟩ | ⟨hstatus, hc⟩)
    · exact .register hadmits hc
    · exact .slot hd hadmits hc
    · exact .store (hsame.status_eq.trans hstatus) hc

theorem StoresApart.symm (hapart : rings.StoresApart s i j) : rings.StoresApart s j i :=
  fun first second hfirst hsecond address hle hlt hother =>
    hapart second first hsecond hfirst address hother.1 hother.2 ⟨hle, hlt⟩

/-- Write pointer registers of different rings share no byte. -/
theorem not_within_wptr_of_ne (hmap : rings.map = .gfx10) (hne : i ≠ j)
    (hi : c.Within (rings.registers.window.cell (rings.wptrOffset i)) 4) :
    ¬c.Within (rings.registers.window.cell (rings.wptrOffset j)) 4 := by
  have hids : i.toNat ≠ j.toNat := mt UInt8.toNat_inj.1 hne
  rintro ⟨-, hlo', hhi'⟩
  obtain ⟨-, hlo, hhi⟩ := hi
  simp only [Window.cell, Cell.advance, wptrOffset_gfx10 hmap, ringBlock_gfx10 hmap]
    at hlo hhi hlo' hhi'
  omega

/-- Doorbell slots of different rings share no byte. -/
theorem not_within_slot_of_ne (hmap : rings.map = .gfx10) (hne : i ≠ j) {d : DoorbellWindow}
    (hi : c.Within (d.window.cell (rings.slotOffset i d)) 4) :
    ¬c.Within (d.window.cell (rings.slotOffset j d)) 4 := by
  have hids : i.toNat ≠ j.toNat := mt UInt8.toNat_inj.1 hne
  have hstride : rings.map.doorbellStride = 4 := by
    rw [hmap]
    rfl
  rintro ⟨-, hlo', hhi'⟩
  obtain ⟨-, hlo, hhi⟩ := hi
  simp only [Window.cell, Cell.advance, slotOffset, hstride] at hlo hhi hlo' hhi'
  omega

/-- No byte backs two rings whose stores keep apart. -/
theorem StoresApart.not_backs (hapart : rings.StoresApart s i j) {first second : RingStatus}
    (hfirst : rings.status s i = .ok first) (hsecond : rings.status s j = .ok second)
    (hi : rings.Backs first c) : ¬rings.Backs second c := by
  obtain ⟨-, k, hk, rfl⟩ := And.imp_right Cell.within_iff.1 hi
  rintro ⟨-, -, hlo, hhi⟩
  simp only [Window.cell, Cell.advance] at hlo hhi
  exact hapart _ _ hfirst hsecond (_ + k) (Nat.le_add_right _ k) (by omega) ⟨by omega, by omega⟩

/-- No byte belongs to two rings. -/
theorem not_territory_of_ne (hmap : rings.map = .gfx10) (hdisjoint : rings.WindowsDisjoint)
    (hne : i ≠ j) (hapart : rings.StoresApart s i j) (hi : rings.Territory i s c) :
    ¬rings.Territory j s c := by
  intro hj
  cases hi with
  | register hadmits hc =>
    have hregisters := Window.owns_of_within hadmits.2 hc
    cases hj with
    | register _ hc' => exact not_within_wptr_of_ne hmap hne hc hc'
    | slot hd hadmits' hc' =>
      exact hdisjoint.doorbell_registers _ hd c (Window.owns_of_within hadmits'.2 hc') hregisters
    | store _ hc' => exact hdisjoint.registers_aperture c hregisters hc'.1
  | slot hd hadmits hc =>
    have hdoorbell := Window.owns_of_within hadmits.2 hc
    cases hj with
    | register hadmits' hc' =>
      exact hdisjoint.doorbell_registers _ hd c hdoorbell (Window.owns_of_within hadmits'.2 hc')
    | slot hd' _ hc' =>
      cases hd.symm.trans hd'
      exact not_within_slot_of_ne hmap hne hc hc'
    | store _ hc' => exact hdisjoint.doorbell_aperture _ hd c hdoorbell hc'.1
  | store hstatus hc =>
    cases hj with
    | register hadmits' hc' =>
      exact hdisjoint.registers_aperture c (Window.owns_of_within hadmits'.2 hc') hc.1
    | slot hd hadmits' hc' =>
      exact hdisjoint.doorbell_aperture _ hd c (Window.owns_of_within hadmits'.2 hc') hc.1
    | store hstatus' hc' => exact hapart.not_backs hstatus hstatus' hc hc'

end Territory

section Frame

/-- A call changes nothing, or else the host pointer of its ring and bytes of the ring's
territory. -/
theorem perform_leaves (rings : RingAccess) (id : UInt8) (call : RingCall) (s : RingMemory) :
    (rings.perform id call s).2 = s ∨ ∃ m ptr,
      (rings.perform id call s).2 = ⟨m, s.pointers.set id ptr⟩ ∧
      ∀ c, ¬rings.Territory id s c → m.byte c = s.memory.byte c := by
  cases call with
  | submit words =>
    have houtcome := submit_outcome rings id words s
    rw [perform]
    generalize rings.submit id words s = result at houtcome
    cases houtcome with
    | refused => exact .inl rfl
    | nothing => exact .inl rfl
    | copied hstatus _ _ hreach _ hcopied =>
      refine .inr ⟨_, _, rfl, fun c hout => hcopied.frame c ?_⟩
      intro k _ hin
      exact hout (.store hstatus (hreach.backs_of_within_slot hin))
  | doorbell ptr =>
    rw [perform]
    by_cases hid : id < rings.map.ringCount
    · rw [ringDoorbell_of_lt ptr s hid]
      refine .inr ⟨_, _, rfl, fun c hout => byte_announced ptr s.memory ?_ ?_⟩
      · exact fun hadmits hin => hout (.register hadmits hin)
      · exact fun d hd hadmits hin => hout (.slot hd hadmits hin)
    · rw [ringDoorbell_of_le ptr s (UInt8.not_lt.1 hid)]
      exact .inl rfl

/-- A call on one ring leaves the host's pointer of every other ring alone. -/
theorem get_perform_of_ne (hne : j ≠ i) (call : RingCall) (s : RingMemory) :
    (rings.perform i call s).2.pointers.get j = s.pointers.get j := by
  obtain hsame | ⟨m, ptr, hset, -⟩ := perform_leaves rings i call s
  · rw [hsame]
  · rw [hset]
    exact WritePointers.get_set_of_ne _ _ hne

/-- A call writes in the ring's territory only. -/
theorem byte_perform (hout : ¬rings.Territory id s c) :
    (rings.perform id call s).2.memory.byte c = s.memory.byte c := by
  obtain hsame | ⟨m, ptr, hset, hframe⟩ := perform_leaves rings id call s
  · rw [hsame]
  · rw [hset]
    exact hframe c hout

/-- A call on one ring leaves the registers of every other ring alone. -/
theorem status_perform_of_ne (hmap : rings.map = .gfx10) (hdisjoint : rings.WindowsDisjoint)
    (hne : j ≠ i) (call : RingCall) (s : RingMemory) :
    rings.status (rings.perform i call s).2 j = rings.status s j := by
  cases call with
  | submit words => exact status_submit hdisjoint.registers_aperture i j words s
  | doorbell ptr =>
    rw [perform]
    by_cases hid : i < rings.map.ringCount
    · rw [ringDoorbell_of_lt ptr s hid]
      exact status_announced_of_ne hmap hdisjoint hne s _ ptr
    · rw [ringDoorbell_of_le ptr s (UInt8.not_lt.1 hid)]

/-- A call on one ring changes nothing that a call on another one looks at. -/
theorem sameRing_perform (hmap : rings.map = .gfx10) (hdisjoint : rings.WindowsDisjoint)
    (hne : j ≠ i) (call : RingCall) (s : RingMemory) :
    rings.SameRing j s (rings.perform i call s).2 :=
  ⟨status_perform_of_ne hmap hdisjoint hne call s, get_perform_of_ne hne call s⟩

end Frame

section Congruence

theorem SameRing.writePtr_eq (hsame : rings.SameRing id s s') (hid : status.id = id) :
    writePtr s' status = writePtr s status := by
  rw [writePtr, writePtr, hid, hsame.get_eq]

theorem SameRing.freeBytes_eq (hsame : rings.SameRing id s s') :
    rings.freeBytes s' id = rings.freeBytes s id := by
  cases hstatus : rings.status s id with
  | error e => rw [freeBytes, freeBytes, hsame.status_eq, hstatus, Except.map, Except.map]
  | ok status =>
    have hstatus' := hsame.status_eq.trans hstatus
    rw [RingAccess.freeBytes_eq hstatus, RingAccess.freeBytes_eq hstatus',
      hsame.writePtr_eq (status_spec hstatus).2]

theorem SameRing.room_eq (hsame : rings.SameRing id s s') (hid : status.id = id) :
    rings.room s' status = rings.room s status := by
  rw [room, room, hsame.writePtr_eq hid]

/-- States that agree on a ring refuse the same words for the same reason. -/
theorem SameRing.refusal {words : List UInt32} {e : DriverError} (hsame : rings.SameRing id s s')
    (why : rings.Refusal id words s e) : rings.Refusal id words s' e := by
  cases why with
  | invalid hid => exact .invalid hid
  | disabled hstatus hdisabled => exact .disabled (hsame.status_eq.trans hstatus) hdisabled
  | unreachable hstatus henabled hwords hreach =>
    exact .unreachable (hsame.status_eq.trans hstatus) henabled hwords hreach
  | full hstatus henabled hwords hreach hfull =>
    have hroom := hsame.room_eq (status_spec hstatus).2
    rw [← hroom] at hfull ⊢
    exact .full (hsame.status_eq.trans hstatus) henabled hwords hreach hfull

/-- Two calls answer the same and leave the same host pointer of ring `id`, and a byte that was the
same before is the same after them. -/
structure SameAnswer {α : Type} (id : UInt8) (s s' : RingMemory)
    (x x' : Except DriverError α × RingMemory) : Prop where
  reply_eq : x'.1 = x.1
  get_eq : x'.2.pointers.get id = x.2.pointers.get id
  byte_eq : ∀ c, s'.memory.byte c = s.memory.byte c → x'.2.memory.byte c = x.2.memory.byte c

/-- A call that changes nothing. -/
theorem SameRing.unchanged {α : Type} (hsame : rings.SameRing id s s')
    (reply : Except DriverError α) : SameAnswer id s s' (reply, s) (reply, s') :=
  ⟨rfl, hsame.get_eq, fun _ hbyte => hbyte⟩

/-- A call that sets the host pointer of ring `id`. -/
theorem sameAnswer_set {α : Type} (reply : Except DriverError α) (ptr : UInt32) {m m' : Memory}
    (hbytes : ∀ c, s'.memory.byte c = s.memory.byte c → m'.byte c = m.byte c) :
    SameAnswer id s s' (reply, ⟨m, s.pointers.set id ptr⟩)
      (reply, ⟨m', s'.pointers.set id ptr⟩) := by
  refine ⟨rfl, ?_, hbytes⟩
  rw [WritePointers.get_set_self, WritePointers.get_set_self]

/-- They give the same answer to a submission. -/
theorem SameRing.submit (hsame : rings.SameRing id s s') (words : List UInt32) :
    SameAnswer id s s' (rings.submit id words s) (rings.submit id words s') := by
  have houtcome := submit_outcome rings id words s
  generalize rings.submit id words s = result at houtcome
  cases houtcome with
  | refused why =>
    rw [submit_of_refusal (hsame.refusal why)]
    exact hsame.unchanged _
  | nothing hstatus henabled hwords =>
    rw [hwords, submit_nil (hsame.status_eq.trans hstatus) henabled,
      hsame.writePtr_eq (status_spec hstatus).2]
    exact hsame.unchanged _
  | @copied status m hstatus henabled hwords hreach hroom hcopied =>
    have hid := (status_spec hstatus).2
    have hptr := hsame.writePtr_eq hid
    have hnext : rings.pointerAfter s' status words.length =
        rings.pointerAfter s status words.length := by
      rw [pointerAfter, pointerAfter, hptr]
    rw [← hsame.room_eq hid] at hroom
    obtain ⟨m', hsubmit, hcopied'⟩ :=
      submit_of_room (hsame.status_eq.trans hstatus) henabled hwords hreach hroom
    rw [hptr] at hcopied'
    rw [hsubmit, hnext]
    exact sameAnswer_set _ _ fun c hbyte => hcopied.byte_congr hcopied' hbyte

/-- They give the same answer to a doorbell. -/
theorem SameRing.doorbell (hsame : rings.SameRing id s s') (ptr : UInt32) :
    SameAnswer id s s' (rings.ringDoorbell id ptr s) (rings.ringDoorbell id ptr s') := by
  by_cases hid : id < rings.map.ringCount
  · rw [ringDoorbell_of_lt ptr s hid, ringDoorbell_of_lt ptr s' hid]
    exact sameAnswer_set _ _ fun c hbyte => byte_announced_congr id ptr hbyte
  · rw [ringDoorbell_of_le ptr s (UInt8.not_lt.1 hid),
      ringDoorbell_of_le ptr s' (UInt8.not_lt.1 hid)]
    exact hsame.unchanged _

/-- They give the same answer to either call. -/
theorem SameRing.perform (hsame : rings.SameRing id s s') (call : RingCall) :
    SameAnswer id s s' (rings.perform id call s) (rings.perform id call s') := by
  cases call with
  | submit words => exact hsame.submit words
  | doorbell ptr => exact hsame.doorbell ptr

end Congruence

section Order

/-- A byte outside the territory of ring `j` is the same whichever call comes first. -/
theorem byte_perform_perform (hmap : rings.map = .gfx10) (hdisjoint : rings.WindowsDisjoint)
    (hne : i ≠ j) (hout : ¬rings.Territory j s c) (first second : RingCall) :
    (rings.perform j second (rings.perform i first s).2).2.memory.byte c =
      (rings.perform i first (rings.perform j second s).2).2.memory.byte c := by
  have hlate : ¬rings.Territory j (rings.perform i first s).2 c := fun hin =>
    hout ((sameRing_perform hmap hdisjoint hne.symm first s).territory_iff.1 hin)
  have hfirst := (sameRing_perform hmap hdisjoint hne second s).perform first
  rw [byte_perform hlate]
  exact (hfirst.byte_eq c (byte_perform hout)).symm

/-- Either order of two calls leaves the same host's pointers. -/
theorem get_perform_perform (hmap : rings.map = .gfx10) (hdisjoint : rings.WindowsDisjoint)
    (hne : i ≠ j) (hid : id ≠ j) (first second : RingCall) :
    (rings.perform j second (rings.perform i first s).2).2.pointers.get id =
      (rings.perform i first (rings.perform j second s).2).2.pointers.get id := by
  rw [get_perform_of_ne hid]
  by_cases hi : id = i
  · subst hi
    exact ((sameRing_perform hmap hdisjoint hid second s).perform first).get_eq.symm
  · rw [get_perform_of_ne hi, get_perform_of_ne hi, get_perform_of_ne hid]

/-- Calls on two rings whose backing stores do not overlap can be made in either order: both answer
the same, and every host pointer and every byte of memory is the same in the end. A call on one ring
changes neither the registers, the free bytes and the host pointer of the other nor its backing
store. -/
theorem perform_independent (hmap : rings.map = .gfx10) (hdisjoint : rings.WindowsDisjoint)
    (hne : i ≠ j) (hapart : rings.StoresApart s i j) (first second : RingCall) :
    let afterFirst := rings.perform i first s
    let afterSecond := rings.perform j second s
    let firstThenSecond := rings.perform j second afterFirst.2
    let secondThenFirst := rings.perform i first afterSecond.2
    secondThenFirst.1 = afterFirst.1 ∧ firstThenSecond.1 = afterSecond.1 ∧
    (∀ id, firstThenSecond.2.pointers.get id = secondThenFirst.2.pointers.get id) ∧
    (∀ c, firstThenSecond.2.memory.byte c = secondThenFirst.2.memory.byte c) ∧
    rings.status afterFirst.2 j = rings.status s j ∧
    rings.freeBytes afterFirst.2 j = rings.freeBytes s j ∧
    afterFirst.2.pointers.get j = s.pointers.get j ∧
    ∀ status, rings.status s j = .ok status → ∀ c, rings.Backs status c →
      afterFirst.2.memory.byte c = s.memory.byte c := by
  intro afterFirst afterSecond firstThenSecond secondThenFirst
  have hfirst := sameRing_perform hmap hdisjoint hne second s
  have hsecond := sameRing_perform hmap hdisjoint hne.symm first s
  refine ⟨(hfirst.perform first).reply_eq, (hsecond.perform second).reply_eq, ?_, ?_,
    hsecond.status_eq, hsecond.freeBytes_eq, hsecond.get_eq, ?_⟩
  · intro id
    by_cases hid : id = j
    · subst hid
      exact (get_perform_perform hmap hdisjoint hne.symm hne.symm second first).symm
    · exact get_perform_perform hmap hdisjoint hne hid first second
  · intro c
    by_cases hj : rings.Territory j s c
    · have hi := not_territory_of_ne hmap hdisjoint hne.symm hapart.symm hj
      exact (byte_perform_perform hmap hdisjoint hne.symm hi second first).symm
    · exact byte_perform_perform hmap hdisjoint hne hj first second
  · intro status hstatus c hc
    exact byte_perform (not_territory_of_ne hmap hdisjoint hne.symm hapart.symm (.store hstatus hc))

end Order

end RingAccess

/-- The sample ring of sixteen dwords and, right behind it, ring 2 of sixty-four. -/
def RingMemory.samplePair : RingMemory where
  memory := (RingMemory.sample 64).memory.store ⟨0, 0xC304⟩
    (LittleEndian.dwords [1, 3, 3, 0x100, 0, 0x140, 0])
  pointers := {}

namespace RingAccess

theorem status_samplePair :
    sample.status .samplePair 1 = .ok ⟨1, 0x100, 13, 29, 64, true⟩ ∧
      sample.status .samplePair 2 = .ok ⟨2, 0x140, 3, 3, 0x100, true⟩ := by
  constructor <;> cbv

theorem storesApart_samplePair : sample.StoresApart .samplePair 1 2 := by
  rintro first second hfirst hsecond address hlo hhi ⟨hlo', hhi'⟩
  cases status_samplePair.1.symm.trans hfirst
  cases status_samplePair.2.symm.trans hsecond
  change 0x140 ≤ address at hlo'
  change address < 0x100 + 64 at hhi
  omega

/-- Words for one ring that go around its end, and a pointer for the other. -/
theorem perform_independent_sample :
    let first := RingCall.submit [1, 2, 3, 4, 5]
    let second := RingCall.doorbell 7
    let store := sample.store ⟨1, 0x100, 13, 29, 64, true⟩
    let afterFirst := sample.perform 1 first .samplePair
    let firstThenSecond := sample.perform 2 second afterFirst.2
    let secondThenFirst := sample.perform 1 first (sample.perform 2 second .samplePair).2
    sample.map = .gfx10 ∧ sample.WindowsDisjoint ∧ (1 : UInt8) ≠ 2 ∧
    sample.StoresApart .samplePair 1 2 ∧ afterFirst.1 = .ok (2 : UInt32) ∧
    secondThenFirst.1 = .ok (2 : UInt32) ∧
    (∀ c, firstThenSecond.2.memory.byte c = secondThenFirst.2.memory.byte c) ∧
    store.words firstThenSecond.2.memory 13 5 = [1, 2, 3, 4, 5] ∧
    store.words secondThenFirst.2.memory 13 5 = [1, 2, 3, 4, 5] ∧
    sample.freeBytes afterFirst.2 2 = .ok 252 := by
  intro first second store afterFirst firstThenSecond secondThenFirst
  have hfree : sample.freeBytes .samplePair 2 = .ok 252 := freeBytes_eq status_samplePair.2
  obtain ⟨hreply, -, -, hbytes, -, hkept, -⟩ := perform_independent rfl windowsDisjoint_sample
    (by decide) storesApart_samplePair first second
  -- The doorbell of ring 2 leaves ring 1 as it is, so its words are submitted as if it came first.
  obtain ⟨-, -, -, -, hstatus, -⟩ := perform_independent rfl windowsDisjoint_sample
    (by decide) storesApart_samplePair.symm second first
  obtain ⟨hanswer, hlands⟩ := submit_lands (hstatus.trans status_samplePair.1) rfl
    (List.cons_ne_nil 1 [2, 3, 4, 5]) (by decide) (by decide)
  have hptr : sample.pointerAfter (sample.perform 2 second .samplePair).2
      ⟨1, 0x100, 13, 29, 64, true⟩ 5 = 2 := by decide
  have hok : secondThenFirst.1 = .ok (2 : UInt32) := hanswer.trans (congrArg Except.ok hptr)
  have hwords : store.words secondThenFirst.2.memory 13 5 = [1, 2, 3, 4, 5] :=
    (RingStore.words_mod_congr (by decide) 5).trans hlands
  have hwords' : store.words firstThenSecond.2.memory 13 5 = [1, 2, 3, 4, 5] :=
    (RingStore.words_congr fun _ _ c _ => hbytes c).trans hwords
  exact ⟨rfl, windowsDisjoint_sample, by decide, storesApart_samplePair, hreply.symm.trans hok, hok,
    hbytes, hwords', hwords, hkept.trans hfree⟩

end RingAccess

end GpuControl
