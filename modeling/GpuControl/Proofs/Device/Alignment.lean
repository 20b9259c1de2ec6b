import GpuControl.Proofs.Device.Opening
import GpuControl.Proofs.Discovery.Congruence
import GpuControl.Proofs.Window.Bar
import Mathlib.Order.Bounds.Defs

namespace GpuControl

/-- Rounding down loses as little as the alignment allows. -/
theorem WindowKind.isGreatest_alignDown (kind : WindowKind) (address : UInt64) :
    IsGreatest {n | kind.alignment.toNat ∣ n ∧ n ≤ address.toNat}
      (alignDown address kind.alignment).toNat := by
  have hpos : 0 < kind.alignment.toNat := by
    obtain ⟨k, hk⟩ := kind.alignment_eq_two_pow
    rw [hk]
    exact Nat.two_pow_pos k
  rw [WindowKind.toNat_alignDown_alignment]
  constructor
  · exact ⟨Nat.dvd_mul_left _ _, Nat.div_mul_le_self _ _⟩
  · rintro n ⟨⟨count, rfl⟩, hle⟩
    rw [Nat.mul_comm] at hle ⊢
    exact Nat.mul_le_mul_right _ ((Nat.le_div_iff_mul_le hpos).2 hle)

/-- No device is there, or configuration space does not tell. -/
inductive DriverError.IsDiscovery : DriverError → Prop
  | absent (bus device : Option UInt8) : IsDiscovery (.deviceNotFound bus device)
  | unread (address : String) (offset : UInt16) (reason : String) :
    IsDiscovery (.configRead address offset reason)

namespace Platform

variable {σ : Type} {p : Platform σ} {s : σ} {addr : PciAddress} {kind : WindowKind}
  {e : DriverError}

/-- A configuration word that cannot be read is a failure of discovery. -/
theorem configWord_error {offset : UInt16} (herror : p.configWord s addr offset = .error e) :
    e.IsDiscovery := by
  unfold configWord at herror
  cases hword : p.readConfig s addr offset with
  | error failure =>
    rw [hword] at herror
    cases herror
    exact .unread _ _ _
  | ok word =>
    rw [hword] at herror
    cases herror

theorem identify_error (herror : p.identify s addr = .error e) : e.IsDiscovery := by
  unfold identify at herror
  split at herror
  · next hid =>
    cases herror
    exact configWord_error hid
  · split at herror
    · cases herror
    · exact configWord_error (eq_error_of_map herror)

/-- Whatever keeps a device from being found is a failure of discovery. -/
theorem select_error {selector : DeviceSelector} (herror : p.select s selector = .error e) :
    e.IsDiscovery := by
  cases selector with
  | first =>
    rw [select, scanFirst] at herror
    split at herror
    · cases herror
    · cases herror
      exact .absent _ _
  | «at» bus device =>
    rw [select] at herror
    split at herror
    · next hidentify =>
      cases herror
      exact identify_error hidentify
    · cases herror
      exact .absent _ _
    · cases herror

theorem readBar_error (herror : p.readBar s addr kind = .error e) : e.IsDiscovery := by
  unfold readBar at herror
  split at herror
  · next hlow =>
    cases herror
    exact configWord_error hlow
  · split at herror
    · exact configWord_error (eq_error_of_map herror)
    · cases herror

theorem kind_of_readBar {b : Bar} (hread : p.readBar s addr kind = .ok b) : b.kind = kind := by
  unfold readBar at hread
  split at hread
  · cases hread
  · split at hread
    · obtain ⟨high, -, rfl⟩ := exists_of_map_eq_ok hread
      rfl
    · cases hread
      rfl

/-- Rounding never fails. -/
theorem windowBases_lenient_error (herror : p.windowBases s addr false = .error e) :
    e.IsDiscovery := by
  unfold windowBases at herror
  split at herror
  · next hregisters =>
    cases herror
    exact readBar_error hregisters
  split at herror
  · next haperture =>
    cases herror
    exact readBar_error haperture
  rw [Bar.mapBase_lenient, Bar.mapBase_lenient] at herror
  cases herror

/-- Both bases keep the rules of their windows. -/
theorem windowBases_ok {strict : Bool} {registersBase apertureBase : UInt64}
    (hbases : p.windowBases s addr strict = .ok (registersBase, apertureBase)) :
    isAligned registersBase WindowKind.registers.alignment = true ∧
      isAligned apertureBase WindowKind.aperture.alignment = true := by
  unfold windowBases at hbases
  split at hbases
  · cases hbases
  next registers hregisters =>
  split at hbases
  · cases hbases
  next aperture haperture =>
  split at hbases
  · cases hbases
  next hregistersBase =>
  obtain ⟨base, hapertureBase, hpair⟩ := exists_of_map_eq_ok hbases
  cases hpair
  have hregisters_aligned := Bar.isAligned_of_mapBase hregistersBase
  have haperture_aligned := Bar.isAligned_of_mapBase hapertureBase
  rw [kind_of_readBar hregisters] at hregisters_aligned
  rw [kind_of_readBar haperture] at haperture_aligned
  exact ⟨hregisters_aligned, haperture_aligned⟩

/-- With an aligned base, only the platform's answer can be in the way. -/
theorem mapWindow_error {phys : UInt64} {len : Nat} {after : σ}
    (haligned : isAligned phys kind.alignment = true)
    (herror : p.mapWindow s kind phys len = (.error e, after)) :
    ∃ size reason, e = .mappingFailed kind phys size reason := by
  have hcheck : Window.checkAlignment kind phys = .ok () := if_pos haligned
  have houtcome := p.map_outcome s kind phys len
  rw [herror] at houtcome
  cases houtcome with
  | misaligned halign => cases hcheck.symm.trans halign
  | refused => exact ⟨_, _, rfl⟩
  | discarded _ _ hwrap =>
    simp only [Window.wrap, hcheck] at hwrap
    split at hwrap
    · cases hwrap
      exact ⟨_, _, rfl⟩
    · cases hwrap

end Platform

namespace Device

variable {σ : Type} {p : Platform σ} {m : Memory} {selector : DeviceSelector}
  {config : DriverConfig} {s : σ} {e : DriverError}

/-- Everything for which an opening can fail that may round. -/
theorem lenient_init_error (hlenient : config.strictAlignment = false)
    (herror : (init p m selector config s).1 = .error e) :
    e.IsDiscovery ∨ (∃ kind phys size reason, e = .mappingFailed kind phys size reason) ∨
      e = .poisonedRead config.registers.status sentinel := by
  have houtcome := init_outcome p m selector config s
  generalize init p m selector config s = result at houtcome herror
  cases houtcome with
  | unselected hselect =>
    cases herror
    exact .inl (Platform.select_error hselect)
  | baseless _ hbases =>
    cases herror
    rw [hlenient] at hbases
    exact .inl (Platform.windowBases_lenient_error hbases)
  | noRegisters _ hbases hregisters =>
    cases herror
    obtain ⟨size, reason, rfl⟩ :=
      Platform.mapWindow_error (Platform.windowBases_ok hbases).1 hregisters
    exact .inr (.inl ⟨_, _, size, reason, rfl⟩)
  | noAperture _ hbases _ haperture =>
    cases herror
    obtain ⟨size, reason, rfl⟩ :=
      Platform.mapWindow_error (Platform.windowBases_ok hbases).2 haperture
    exact .inr (.inl ⟨_, _, size, reason, rfl⟩)
  | poisoned =>
    cases herror
    exact .inr (.inr rfl)
  | opened => cases herror

end Device

/-- A register's base lacks the flags and nothing else. It is rounded down to the greatest multiple
of the window's alignment, or refused if it is none itself; whatever is handed to the mapper, the
mapper does not refuse for its alignment, and no opening that may round fails for one. -/
theorem Bar.mapBase_exact {σ : Type} (p : Platform σ) :
    (∀ (kind : WindowKind) (low : UInt32) (high : Option UInt32),
      let b := Bar.decode kind low high
      let word := (high.getD 0).toNat * 2 ^ 32 + low.toNat
      b.base.toNat = word / 16 * 16 ∧
      (∃ base, b.mapBase false = .ok base ∧
        IsGreatest {n | kind.alignment.toNat ∣ n ∧ n ≤ b.base.toNat} base.toNat) ∧
      (∀ base, b.mapBase true = .ok base ↔
        kind.alignment.toNat ∣ b.base.toNat ∧ base = b.base) ∧
      (¬kind.alignment.toNat ∣ b.base.toNat →
        b.mapBase true = .error (.alignmentViolation kind.text b.base kind.alignment)) ∧
      ∀ strict base, b.mapBase strict = .ok base → ∀ s len what address alignment,
        (p.mapWindow s kind base len).1 ≠ .error (.alignmentViolation what address alignment)) ∧
    ∀ m selector (config : DriverConfig) s what address alignment,
      (Device.init p m selector { config with strictAlignment := false } s).1 ≠
        .error (.alignmentViolation what address alignment) := by
  constructor
  · intro kind low high b word
    refine ⟨toNat_address low high, ⟨_, mapBase_lenient b, kind.isGreatest_alignDown b.base⟩,
      fun base => mapBase_strict_eq_ok_iff, mapBase_strict_of_not_dvd, ?_⟩
    intro strict base hbase s len what address alignment hrefused
    obtain ⟨size, reason, herror⟩ :=
      Platform.mapWindow_error (isAligned_of_mapBase hbase) (Prod.ext hrefused rfl)
    cases herror
  · intro m selector config s what address alignment herror
    rcases Device.lenient_init_error rfl herror with hdiscovery | ⟨_, _, _, _, hmapping⟩ | hpoisoned
    · cases hdiscovery
    · cases hmapping
    · cases hpoisoned

end GpuControl
