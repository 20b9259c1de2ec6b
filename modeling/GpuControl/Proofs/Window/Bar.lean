import GpuControl.Bar
import Mathlib.Algebra.Ring.Nat

namespace GpuControl

/-- The bits from `k` on and the bits below, each in their place, are the whole word. -/
theorem join_parts {word high low : UInt64} (k : Nat)
    (hhigh : high.toNat = 2 ^ k * (word.toNat / 2 ^ k)) (hlow : low.toNat = word.toNat % 2 ^ k) :
    high ||| low = word := by
  have hlt : word.toNat % 2 ^ k < 2 ^ k := Nat.mod_lt _ (Nat.two_pow_pos k)
  apply UInt64.toNat_inj.1
  rw [UInt64.toNat_or, hhigh, hlow, ← Nat.two_pow_add_eq_or_of_lt hlt, Nat.div_add_mod]

/-- A word is its upper half and its lower half, joined. -/
theorem join_dwords (word : UInt64) :
    (word >>> 32).toUInt32.toUInt64 <<< 32 ||| word.toUInt32.toUInt64 = word := by
  have hlt := word.toNat_lt
  apply join_parts 32
  · rw [UInt64.toNat_shiftLeft, UInt32.toNat_toUInt64, UInt64.toNat_toUInt32,
      UInt64.toNat_shiftRight, Nat.shiftLeft_eq, Nat.shiftRight_eq_div_pow]
    change word.toNat / 2 ^ 32 % 2 ^ 32 * 2 ^ 32 % 2 ^ 64 = _
    omega
  · rw [UInt32.toNat_toUInt64, UInt64.toNat_toUInt32]

variable {address alignment : UInt64}

/-- The bits below an alignment. -/
theorem toNat_sub_one {k : Nat} (halignment : alignment.toNat = 2 ^ k) :
    (alignment - 1).toNat = 2 ^ k - 1 := by
  have hone : (1 : UInt64) ≤ alignment := by
    rw [UInt64.le_iff_toNat_le, halignment]
    exact Nat.two_pow_pos k
  rw [UInt64.toNat_sub_of_le _ _ hone, halignment]
  rfl

/-- Under an alignment that is a power of two, the aligned addresses are its multiples. -/
theorem isAligned_iff {k : Nat} (halignment : alignment.toNat = 2 ^ k) :
    isAligned address alignment = true ↔ address.toNat % alignment.toNat = 0 := by
  rw [isAligned, beq_iff_eq, ← UInt64.toNat_inj, UInt64.toNat_and, toNat_sub_one halignment,
    Nat.and_two_pow_sub_one_eq_mod, halignment]
  rfl

/-- Aligning down gives the greatest multiple that is not above the address. -/
theorem toNat_alignDown {k : Nat} (halignment : alignment.toNat = 2 ^ k) :
    (alignDown address alignment).toNat =
      address.toNat / alignment.toNat * alignment.toNat := by
  have hmask := toNat_sub_one halignment
  have hmask_lt : 2 ^ k - 1 < 2 ^ 64 := hmask ▸ (alignment - 1).toNat_lt
  have hkept : (~~~(alignment - 1)).toNat = 2 ^ 64 - (2 ^ k - 1 + 1) := by
    rw [UInt64.toNat_not, hmask, Nat.sub_sub, Nat.add_comm]
    rfl
  rw [alignDown, UInt64.toNat_and, hkept, halignment, ← Nat.shiftRight_eq_div_pow,
    ← Nat.shiftLeft_eq]
  -- Bit by bit: those below the alignment are cleared, the others stay.
  apply Nat.eq_of_testBit_eq
  intro i
  rw [Nat.testBit_and, Nat.testBit_two_pow_sub_succ hmask_lt, Nat.testBit_two_pow_sub_one,
    Nat.testBit_shiftLeft, Nat.testBit_shiftRight]
  by_cases hlow : i < k
  · simp [hlow, Nat.not_le_of_lt hlow]
  · have hback : k + (i - k) = i := by omega
    by_cases hsize : i < 64
    · simp [hlow, hback, hsize, Nat.le_of_not_lt hlow]
    · have hclear : address.toNat.testBit i = false := by
        apply Nat.testBit_lt_two_pow
        exact Nat.lt_of_lt_of_le address.toNat_lt
          (Nat.pow_le_pow_right (by decide) (Nat.le_of_not_lt hsize))
      rw [hback, hclear, Bool.and_false, Bool.false_and]

/-- Clearing flags that lie outside the address gives the address back. -/
theorem clear_flags {flags mask : UInt64} (hclear : address &&& mask = 0)
    (hflags : flags &&& ~~~mask = 0) : (address ||| flags) &&& ~~~mask = address := by
  apply UInt64.toBitVec_inj.1
  apply BitVec.eq_of_getLsbD_eq
  intro i hi
  have haddress : (address.toBitVec.getLsbD i && mask.toBitVec.getLsbD i) = false := by
    simpa using congrArg (·.toBitVec.getLsbD i) hclear
  have hflag : (flags.toBitVec.getLsbD i && !mask.toBitVec.getLsbD i) = false := by
    simpa [hi] using congrArg (·.toBitVec.getLsbD i) hflags
  simp only [UInt64.toBitVec_and, UInt64.toBitVec_not, UInt64.toBitVec_or, BitVec.getLsbD_and,
    BitVec.getLsbD_not, BitVec.getLsbD_or, hi, decide_true, Bool.true_and]
  grind

theorem alignDown_of_isAligned (haligned : isAligned address alignment = true) :
    alignDown address alignment = address := by
  rw [isAligned, beq_iff_eq] at haligned
  have hdown := clear_flags haligned (UInt64.zero_and : 0 &&& ~~~(alignment - 1) = 0)
  rwa [UInt64.or_zero] at hdown

namespace WindowKind

/-- Every kind of window has a power of two for its alignment. -/
theorem alignment_eq_two_pow (kind : WindowKind) : ∃ k, kind.alignment.toNat = 2 ^ k := by
  cases kind with
  | registers => exact ⟨12, by decide⟩
  | aperture => exact ⟨28, by decide⟩
  | doorbell => exact ⟨16, by decide⟩

theorem isAligned_alignment_iff (kind : WindowKind) :
    isAligned address kind.alignment = true ↔ address.toNat % kind.alignment.toNat = 0 := by
  obtain ⟨k, hk⟩ := kind.alignment_eq_two_pow
  exact isAligned_iff hk

theorem toNat_alignDown_alignment (kind : WindowKind) :
    (alignDown address kind.alignment).toNat =
      address.toNat / kind.alignment.toNat * kind.alignment.toNat := by
  obtain ⟨k, hk⟩ := kind.alignment_eq_two_pow
  exact toNat_alignDown hk

/-- What was aligned down is aligned. -/
theorem isAligned_alignDown (kind : WindowKind) :
    isAligned (alignDown address kind.alignment) kind.alignment = true := by
  rw [isAligned_alignment_iff, toNat_alignDown_alignment]
  exact Nat.mul_mod_left _ _

/-- A base that is aligned for a window is aligned for everything smaller, down to the flag bits. -/
theorem mod_of_isAligned {kind : WindowKind} (haligned : isAligned address kind.alignment = true)
    {n : Nat} (hn : n ∣ 4096) : address.toNat % n = 0 := by
  have hmod := kind.isAligned_alignment_iff.1 haligned
  have hdvd : n ∣ kind.alignment.toNat := Nat.dvd_trans hn (by cases kind <;> decide)
  exact Nat.mod_eq_zero_of_dvd (Nat.dvd_trans hdvd (Nat.dvd_of_mod_eq_zero hmod))

end WindowKind

namespace Bar

theorem and_flagMask_eq_zero (hmod : address.toNat % 16 = 0) : address &&& flagMask = 0 := by
  have haligned : GpuControl.isAligned address 16 = true :=
    (isAligned_iff (show (16 : UInt64).toNat = 2 ^ 4 by decide)).2 hmod
  rwa [GpuControl.isAligned, beq_iff_eq] at haligned

/-- The lower word counts once, and the upper one, if there is one, for what lies above 32 bits. -/
theorem toNat_joinWords (low : UInt32) (high : Option UInt32) :
    (joinWords low high).toNat = (high.getD 0).toNat * 2 ^ 32 + low.toNat := by
  have hhigh : ((high.getD 0).toUInt64 <<< 32).toNat = 2 ^ 32 * (high.getD 0).toNat := by
    have hlt := (high.getD 0).toNat_lt
    rw [UInt64.toNat_shiftLeft, UInt32.toNat_toUInt64, Nat.shiftLeft_eq]
    change (high.getD 0).toNat * 2 ^ 32 % 2 ^ 64 = _
    omega
  rw [joinWords, UInt64.toNat_or, hhigh, UInt32.toNat_toUInt64,
    ← Nat.two_pow_add_eq_or_of_lt low.toNat_lt, Nat.mul_comm]

/-- Only the flags are missing from the base. -/
theorem toNat_address (low : UInt32) (high : Option UInt32) :
    (Bar.address low high).toNat = ((high.getD 0).toNat * 2 ^ 32 + low.toNat) / 16 * 16 := by
  have hdown : Bar.address low high = alignDown (joinWords low high) 16 := rfl
  have hpow : (16 : UInt64).toNat = 2 ^ 4 := by decide
  rw [hdown, toNat_alignDown hpow, toNat_joinWords, hpow, show (2 : Nat) ^ 4 = 16 from rfl]

/-- The flags of a 64-bit register do not reach the base. -/
theorem address_dwords {flags : UInt64} (hmod : address.toNat % 16 = 0)
    (hflags : flags &&& ~~~flagMask = 0) :
    Bar.address (address ||| flags).toUInt32 (some ((address ||| flags) >>> 32).toUInt32) =
      address := by
  rw [Bar.address, joinWords, Option.getD_some, join_dwords]
  exact clear_flags (and_flagMask_eq_zero hmod) hflags

theorem address_dword (hmod : address.toNat % 16 = 0) (hlt : address.toNat < 2 ^ 32) :
    Bar.address address.toUInt32 none = address := by
  have hlow : address.toUInt32.toUInt64 = address := by
    rw [← UInt64.toNat_inj, UInt32.toNat_toUInt64, UInt64.toNat_toUInt32, Nat.mod_eq_of_lt hlt]
  have hdown := clear_flags (and_flagMask_eq_zero hmod) (UInt64.zero_and : 0 &&& ~~~flagMask = 0)
  rw [UInt64.or_zero] at hdown
  rw [Bar.address, joinWords, Option.getD_none, hlow]
  exact (congrArg (· &&& ~~~flagMask) UInt64.zero_or).trans hdown

variable {b : Bar}

theorem isAligned_iff_dvd : b.isAligned = true ↔ b.kind.alignment.toNat ∣ b.base.toNat := by
  rw [Bar.isAligned, WindowKind.isAligned_alignment_iff, Nat.dvd_iff_mod_eq_zero]

theorem mapBase_of_isAligned (haligned : GpuControl.isAligned b.base b.kind.alignment = true)
    (strict : Bool) : b.mapBase strict = .ok b.base := if_pos haligned

/-- A base that keeps the rule is its own rounding. -/
theorem mapBase_lenient (b : Bar) :
    b.mapBase false = .ok (alignDown b.base b.kind.alignment) := by
  unfold mapBase
  split
  · next haligned => rw [alignDown_of_isAligned haligned]
  · rfl

/-- Under strict alignment, a base that is not aligned is refused, by the name of its window. -/
theorem mapBase_strict_of_not_dvd (hmisaligned : ¬b.kind.alignment.toNat ∣ b.base.toNat) :
    b.mapBase true = .error (.alignmentViolation b.kind.text b.base b.kind.alignment) := by
  rw [mapBase, if_neg (mt isAligned_iff_dvd.1 hmisaligned), if_pos rfl]

/-- Under strict alignment, a base is mapped where it is or not at all. -/
theorem mapBase_strict_eq_ok_iff {base : UInt64} :
    b.mapBase true = .ok base ↔ b.kind.alignment.toNat ∣ b.base.toNat ∧ base = b.base := by
  by_cases hdvd : b.kind.alignment.toNat ∣ b.base.toNat
  · rw [mapBase_of_isAligned (isAligned_iff_dvd.2 hdvd), Except.ok.injEq, and_iff_right hdvd]
    exact eq_comm
  · rw [mapBase_strict_of_not_dvd hdvd]
    exact ⟨nofun, fun h => absurd h.1 hdvd⟩

/-- Strict or not, what is handed to the mapper keeps the rule. -/
theorem isAligned_of_mapBase {strict : Bool} {base : UInt64}
    (hbase : b.mapBase strict = .ok base) :
    GpuControl.isAligned base b.kind.alignment = true := by
  cases strict with
  | true =>
    obtain ⟨hdvd, rfl⟩ := mapBase_strict_eq_ok_iff.1 hbase
    exact isAligned_iff_dvd.2 hdvd
  | false =>
    rw [mapBase_lenient] at hbase
    cases hbase
    exact b.kind.isAligned_alignDown

end Bar

end GpuControl
