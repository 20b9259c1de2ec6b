import GpuControl.Proofs.Discovery.Placed

namespace GpuControl

namespace PciAddress

/-- The order of addresses: by bus, then by device, then by function. -/
def Before (a b : PciAddress) : Prop :=
  a.bus < b.bus ∨ a.bus = b.bus ∧
    (a.device < b.device ∨ a.device = b.device ∧ a.function < b.function)

theorem Before.ne {a b : PciAddress} (h : a.Before b) : a ≠ b := by
  rintro rfl
  rcases h with h | ⟨-, h | ⟨-, h⟩⟩
  · exact UInt8.lt_irrefl _ h
  · exact UInt8.lt_irrefl _ h
  · exact UInt8.lt_irrefl _ h

theorem ofNat_lt_ofNat {i j : Nat} (hlt : i < j) (hj : j < UInt8.size) :
    UInt8.ofNat i < UInt8.ofNat j := by
  rwa [UInt8.lt_ofNat_iff hj, UInt8.toNat_ofNat_of_lt' (Nat.lt_trans hlt hj)]

/-- Slots are visited in strictly ascending order, so none is visited twice. -/
theorem slots_pairwise : slots.Pairwise Before := by
  unfold slots
  rw [List.pairwise_flatMap]
  constructor
  · intro bus _
    refine List.pairwise_map.2 (List.pairwise_lt_range.imp_of_mem fun _ hj hlt => ?_)
    have hj := List.mem_range.1 hj
    exact .inr ⟨rfl, .inl (ofNat_lt_ofNat hlt (Nat.lt_trans hj (by decide)))⟩
  · refine List.pairwise_lt_range.imp_of_mem fun _ hj hlt => ?_
    intro first hfirst second hsecond
    obtain ⟨-, -, rfl⟩ := List.mem_map.1 hfirst
    obtain ⟨-, -, rfl⟩ := List.mem_map.1 hsecond
    exact .inl (ofNat_lt_ofNat hlt (List.mem_range.1 hj))

end PciAddress

namespace Platform

variable {σ τ : Type} {p : Platform σ} {q : Platform τ} {s : σ} {t : τ} {addr : PciAddress}
  {d : PciDevice}

/-- The device is a display controller of the vendor and answers at the first function of a slot:
its id word can be read and is somebody's, and so can its class word. -/
structure Displays (p : Platform σ) (s : σ) (d : PciDevice) : Prop where
  slot : d.address.device.toNat < 32 ∧ d.address.function = 0
  identified : ∃ word, p.readConfig s d.address 0x00 = .ok word ∧ word ≠ 0 ∧ word ≠ 0xFFFFFFFF ∧
    d.vendorId.toNat = word.toNat % 2 ^ 16 ∧ d.deviceId.toNat = word.toNat / 2 ^ 16
  classified : p.readConfig s d.address 0x08 = .ok d.classWord
  vendor : d.vendorId = 0x1002
  display : d.classWord.toNat / 2 ^ 24 = 3
  named : d.name = Chip.displayName d.deviceId

/-- What a scan takes, by vendor and base class as numbers. -/
theorem isAmdDisplay_iff :
    d.isAmdDisplay = true ↔ d.vendorId = 0x1002 ∧ d.classWord.toNat / 2 ^ 24 = 3 := by
  have hlt := d.classWord.toNat_lt
  have hbase : (baseClass d.classWord).toNat = d.classWord.toNat / 2 ^ 24 := by
    rw [baseClass, UInt32.toNat_toUInt8, UInt32.toNat_shiftRight]
    change d.classWord.toNat >>> 24 % 2 ^ 8 = _
    rw [Nat.shiftRight_eq_div_pow]
    omega
  rw [PciDevice.isAmdDisplay, Bool.and_eq_true, beq_iff_eq, beq_iff_eq, ← hbase,
    ← UInt8.toNat_inj]
  rfl

/-- A scan takes a function that can be identified and is a display controller of the vendor. -/
theorem controllerAt?_eq_some_iff :
    p.controllerAt? s addr = some d ↔
      p.identify s addr = .ok (some d) ∧ d.isAmdDisplay = true := by
  unfold controllerAt?
  split
  next device hidentify =>
    rw [hidentify, Except.ok.injEq, Option.some.injEq]
    constructor
    · intro hcontroller
      split at hcontroller
      next hdisplay =>
        cases hcontroller
        exact ⟨rfl, hdisplay⟩
      next => cases hcontroller
    · rintro ⟨rfl, hdisplay⟩
      exact if_pos hdisplay
  next hother =>
    refine ⟨nofun, ?_⟩
    rintro ⟨hidentify, -⟩
    exact absurd hidentify (hother d)

theorem address_of_controllerAt? (hcontroller : p.controllerAt? s addr = some d) :
    d.address = addr :=
  (identify_eq_some_iff.1 (controllerAt?_eq_some_iff.1 hcontroller).1).1

/-- A scan finds the display controllers in the slots and nothing else. -/
theorem mem_enumerate_iff : d ∈ p.enumerate s ↔ p.Displays s d := by
  rw [enumerate, List.mem_filterMap]
  constructor
  · rintro ⟨addr, hslot, hcontroller⟩
    obtain ⟨hidentify, hamd⟩ := controllerAt?_eq_some_iff.1 hcontroller
    obtain ⟨rfl, ⟨word, hid, hzero, habsent, hsplit⟩, hclass, hname⟩ :=
      identify_eq_some_iff.1 hidentify
    obtain ⟨hvendor, hdisplay⟩ := isAmdDisplay_iff.1 hamd
    exact ⟨PciAddress.mem_slots.1 hslot,
      ⟨word, hid, hzero, habsent, splitIdWord_eq_iff.1 hsplit⟩, hclass, hvendor, hdisplay, hname⟩
  · rintro ⟨hslot, ⟨word, hid, hzero, habsent, hsplit⟩, hclass, hvendor, hdisplay, hname⟩
    have hidentify : p.identify s d.address = .ok (some d) := identify_eq_some_iff.2
      ⟨rfl, ⟨word, hid, hzero, habsent, splitIdWord_eq_iff.2 hsplit⟩, hclass, hname⟩
    exact ⟨d.address, PciAddress.mem_slots.2 hslot,
      controllerAt?_eq_some_iff.2 ⟨hidentify, isAmdDisplay_iff.2 ⟨hvendor, hdisplay⟩⟩⟩

/-- What is found stands in the order of the slots. -/
theorem enumerate_pairwise (p : Platform σ) (s : σ) :
    (p.enumerate s).Pairwise fun first second => first.address.Before second.address := by
  unfold enumerate
  rw [List.pairwise_filterMap]
  refine PciAddress.slots_pairwise.imp fun hbefore first hfirst second hsecond => ?_
  rw [address_of_controllerAt? hfirst, address_of_controllerAt? hsecond]
  exact hbefore

/-- The scan for the first controller stops at the head of the list of all of them. -/
theorem scanFirst_eq_ok_iff : p.scanFirst s = .ok d ↔ (p.enumerate s).head? = some d := by
  unfold scanFirst enumerate
  rw [List.head?_filterMap]
  cases PciAddress.slots.findSome? (p.controllerAt? s) with
  | none => simp
  | some found => simp

/-- The first of no controllers is an error, and it is the only way to get one. -/
theorem scanFirst_eq_error_iff {e : DriverError} :
    p.scanFirst s = .error e ↔ p.enumerate s = [] ∧ e = .notFound := by
  rw [← List.head?_eq_none_iff]
  unfold scanFirst enumerate
  rw [List.head?_filterMap]
  cases PciAddress.slots.findSome? (p.controllerAt? s) with
  | none => simp [eq_comm]
  | some found => simp

theorem filter_controllerAt?_self (p : Platform σ) (s : σ) (addr : PciAddress) :
    (p.controllerAt? s addr).filter (·.address != addr) = none := by
  cases hcontroller : p.controllerAt? s addr with
  | none => rfl
  | some d => simp [address_of_controllerAt? hcontroller]

/-- Two platforms that answer alike at all addresses but one list the same controllers at all
addresses but that one. -/
theorem enumerate_filter_ne (hagree : ∀ other, other ≠ addr → ∀ offset,
    q.readConfig t other offset = p.readConfig s other offset) :
    (q.enumerate t).filter (·.address != addr) = (p.enumerate s).filter (·.address != addr) := by
  unfold enumerate
  rw [List.filter_filterMap, List.filter_filterMap]
  congr 1
  funext other
  by_cases hother : other = addr
  · subst hother
    rw [filter_controllerAt?_self, filter_controllerAt?_self]
  · rw [controllerAt?, controllerAt?,
      identify_congr (hagree other hother _) (hagree other hother _)]

/-- A device that a scan finds can be selected by its place. -/
theorem select_of_mem_enumerate (hd : d ∈ p.enumerate s) :
    p.select s (.at d.address.bus d.address.device) = .ok d := by
  obtain ⟨addr, hslot, hcontroller⟩ := List.mem_filterMap.1 hd
  obtain ⟨hidentify, -⟩ := controllerAt?_eq_some_iff.1 hcontroller
  have haddress : (⟨d.address.bus, d.address.device, 0⟩ : PciAddress) = addr := by
    rw [← (PciAddress.mem_slots.1 hslot).2, address_of_controllerAt? hcontroller]
  rw [select, haddress, hidentify]

/-- Scanning is exact. The list of all controllers is in strictly ascending order of addresses and
holds the display controllers of the vendor that answer at the first function of a slot, and nothing
else; what is not there, or cannot be read, is passed over. The answers at one address decide only
over that address's entry. The scan for the first controller finds the head of the list, and fails,
without a location, exactly if the list is empty. Selecting the place of a listed device finds that
device. -/
theorem scan_exact (p : Platform σ) (s : σ) :
    (p.enumerate s).Pairwise (fun first second => first.address.Before second.address) ∧
    ((p.enumerate s).map (·.address)).Nodup ∧ (∀ d, d ∈ p.enumerate s ↔ p.Displays s d) ∧
    (∀ (τ : Type) (q : Platform τ) (t : τ) (addr : PciAddress), (∀ other, other ≠ addr →
      ∀ offset, q.readConfig t other offset = p.readConfig s other offset) →
      (q.enumerate t).filter (·.address != addr) = (p.enumerate s).filter (·.address != addr)) ∧
    (∀ d, p.scanFirst s = .ok d ↔ (p.enumerate s).head? = some d) ∧
    (∀ e, p.scanFirst s = .error e ↔ p.enumerate s = [] ∧ e = .deviceNotFound none none) ∧
    ∀ d ∈ p.enumerate s, p.select s (.at d.address.bus d.address.device) = .ok d :=
  ⟨enumerate_pairwise p s, List.pairwise_map.2 ((enumerate_pairwise p s).imp PciAddress.Before.ne),
    fun _ => mem_enumerate_iff, fun _ _ _ _ => enumerate_filter_ne,
    fun _ => scanFirst_eq_ok_iff, fun _ => scanFirst_eq_error_iff,
    fun _ => select_of_mem_enumerate⟩

end Platform

end GpuControl
