import Mathlib.Algebra.Ring.Nat
import GpuControl.Discovery

namespace GpuControl

/-- An id word has the vendor in its low half and the device in its high half. -/
theorem splitIdWord_eq_iff {word : UInt32} {vendorId deviceId : UInt16} :
    splitIdWord word = (vendorId, deviceId) ↔
      vendorId.toNat = word.toNat % 2 ^ 16 ∧ deviceId.toNat = word.toNat / 2 ^ 16 := by
  have hlt := word.toNat_lt
  have hhigh : (word >>> 16).toUInt16.toNat = word.toNat / 2 ^ 16 := by
    rw [UInt32.toNat_toUInt16, UInt32.toNat_shiftRight]
    change word.toNat >>> 16 % 2 ^ 16 = _
    rw [Nat.shiftRight_eq_div_pow]
    omega
  rw [splitIdWord, Prod.mk.injEq, ← UInt16.toNat_inj, ← UInt16.toNat_inj, hhigh,
    UInt32.toNat_toUInt16]
  exact and_congr eq_comm eq_comm

section Except

variable {ε α β : Type} {x : Except ε α} {f : α → β}

theorem exists_of_map_eq_ok {b : β} (hmap : x.map f = .ok b) : ∃ a, x = .ok a ∧ f a = b := by
  cases x with
  | error e => cases hmap
  | ok a =>
    cases hmap
    exact ⟨a, rfl, rfl⟩

theorem eq_error_of_map {e : ε} (hmap : x.map f = .error e) : x = .error e := by
  cases x with
  | error e =>
    cases hmap
    rfl
  | ok a => cases hmap

end Except

namespace Platform

variable {σ τ : Type} {p : Platform σ} {q : Platform τ} {s : σ} {t : τ} {addr : PciAddress}

/-- A configuration word depends on what the platform reads there, and on nothing else of it. -/
theorem configWord_congr {offset : UInt16}
    (hword : q.readConfig t addr offset = p.readConfig s addr offset) :
    q.configWord t addr offset = p.configWord s addr offset := by
  rw [configWord, configWord, hword]

/-- Telling a failure in other words makes no success of it. -/
theorem configWord_eq_ok_iff {offset : UInt16} {word : UInt32} :
    p.configWord s addr offset = .ok word ↔ p.readConfig s addr offset = .ok word := by
  unfold configWord
  cases p.readConfig s addr offset with
  | error e => exact ⟨nofun, nofun⟩
  | ok read =>
    constructor
    · rintro ⟨⟩
      rfl
    · rintro ⟨⟩
      rfl

theorem configWord_eq_ok {offset : UInt16} {word : UInt32}
    (hword : p.readConfig s addr offset = .ok word) : p.configWord s addr offset = .ok word :=
  configWord_eq_ok_iff.2 hword

/-- Somebody answers exactly if an id word that is somebody's and a class word can be read. -/
theorem identify_eq_some_iff {d : PciDevice} :
    p.identify s addr = .ok (some d) ↔ d.address = addr ∧
      (∃ word, p.readConfig s addr idOffset = .ok word ∧ word ≠ 0 ∧ word ≠ absentWord ∧
        splitIdWord word = (d.vendorId, d.deviceId)) ∧
      p.readConfig s addr classOffset = .ok d.classWord ∧ d.name = Chip.displayName d.deviceId := by
  constructor
  · intro hidentify
    unfold identify at hidentify
    cases hid : p.configWord s addr idOffset with
    | error e =>
      rw [hid] at hidentify
      cases hidentify
    | ok word =>
      rw [hid] at hidentify
      simp only at hidentify
      split at hidentify
      next => cases hidentify
      next hpresent =>
        rw [not_or] at hpresent
        obtain ⟨classWord, hclass, hdevice⟩ := exists_of_map_eq_ok hidentify
        cases hdevice
        exact ⟨rfl, ⟨word, configWord_eq_ok_iff.1 hid, hpresent.2, hpresent.1, rfl⟩,
          configWord_eq_ok_iff.1 hclass, rfl⟩
  · rintro ⟨rfl, ⟨word, hid, hzero, habsent, hsplit⟩, hclass, hname⟩
    have hpresent : ¬(word = absentWord ∨ word = 0) := not_or.2 ⟨habsent, hzero⟩
    rw [identify, configWord_eq_ok hid, configWord_eq_ok hclass]
    simp only [if_neg hpresent, hsplit, ← hname]
    rfl

/-- Who a function is depends on its id word and its class word alone. -/
theorem identify_congr (hid : q.readConfig t addr idOffset = p.readConfig s addr idOffset)
    (hclass : q.readConfig t addr classOffset = p.readConfig s addr classOffset) :
    q.identify t addr = p.identify s addr := by
  rw [identify, identify, configWord_congr hid, configWord_congr hclass]

/-- A 64-bit register is read in two words. -/
theorem readBar_congr {kind : WindowKind}
    (hlow : q.readConfig t addr kind.configOffset = p.readConfig s addr kind.configOffset)
    (hhigh : kind.is64Bit = true → q.readConfig t addr (kind.configOffset + 4) =
      p.readConfig s addr (kind.configOffset + 4)) :
    q.readBar t addr kind = p.readBar s addr kind := by
  rw [readBar, readBar, configWord_congr hlow]
  split
  · rfl
  · split
    next hwide => rw [configWord_congr (hhigh hwide)]
    next => rfl

/-- A wide register is decoded from two words, the low one first. -/
theorem readBar_of_dwords {kind : WindowKind} {low high : UInt32} (hwide : kind.is64Bit = true)
    (hlow : p.readConfig s addr kind.configOffset = .ok low)
    (hhigh : p.readConfig s addr (kind.configOffset + 4) = .ok high) :
    p.readBar s addr kind = .ok (.decode kind low (some high)) := by
  simp only [readBar, configWord_eq_ok hlow, if_pos hwide, configWord_eq_ok hhigh]
  rfl

/-- A narrow one is decoded from a single word. -/
theorem readBar_of_dword {kind : WindowKind} {low : UInt32} (hnarrow : kind.is64Bit = false)
    (hlow : p.readConfig s addr kind.configOffset = .ok low) :
    p.readBar s addr kind = .ok (.decode kind low none) := by
  simp only [readBar, configWord_eq_ok hlow, hnarrow, Bool.false_eq_true, if_false]

section Identified

variable (hidentify : ∀ addr, q.identify t addr = p.identify s addr)
include hidentify

/-- Platforms that identify every function alike find the same controller at every address. -/
theorem controllerAt?_congr : q.controllerAt? t = p.controllerAt? s := by
  funext addr
  rw [controllerAt?, controllerAt?, hidentify]

/-- So they enumerate the same devices. -/
theorem enumerate_congr : q.enumerate t = p.enumerate s := by
  rw [enumerate, enumerate, controllerAt?_congr hidentify]

theorem scanFirst_congr : q.scanFirst t = p.scanFirst s := by
  rw [scanFirst, scanFirst, controllerAt?_congr hidentify]

/-- A selector, too, sees nothing of a platform but what identifies its functions. -/
theorem select_congr (selector : DeviceSelector) : q.select t selector = p.select s selector := by
  cases selector with
  | first => exact scanFirst_congr hidentify
  | «at» bus device => rw [select, select, hidentify]

end Identified

end Platform

end GpuControl
