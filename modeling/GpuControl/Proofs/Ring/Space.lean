import GpuControl.Ring.Space
import Mathlib.Data.Nat.ModEq

namespace GpuControl

/-- The byte offset of a pointer is four times the pointer, around the ring. -/
theorem toNat_ringOffset (ptr : UInt32) {size : UInt32} (hsize : 0 < size.toNat) :
    (ringOffset ptr size).toNat = 4 * ptr.toNat % size.toNat := by
  have hptr := ptr.toNat_lt
  have hbound := size.toNat_lt
  have hmod : ptr.toNat * 4 % size.toNat < size.toNat := Nat.mod_lt _ hsize
  rw [ringOffset, UInt64.toNat_toUInt32, UInt64.toNat_mod, UInt64.toNat_mul,
    UInt32.toNat_toUInt64, UInt32.toNat_toUInt64]
  change ptr.toNat * 4 % 2 ^ 64 % size.toNat % 2 ^ 32 = _
  rw [Nat.mod_eq_of_lt (show ptr.toNat * 4 < 2 ^ 64 by omega),
    Nat.mod_eq_of_lt (show ptr.toNat * 4 % size.toNat < 2 ^ 32 by omega), Nat.mul_comm]

theorem toNat_saturatingSub (a b : UInt32) :
    (saturatingSub a b).toNat = a.toNat - b.toNat := by
  unfold saturatingSub
  split
  case isTrue hle => exact UInt32.toNat_sub_of_le a b hle
  case isFalse hgt =>
    have hlt : ¬b.toNat ≤ a.toNat := fun hle => hgt (UInt32.le_iff_toNat_le.2 hle)
    change 0 = _
    omega

/-- The margin is never less than a dword. -/
theorem toNat_atLeastOneDword (margin : UInt32) :
    (atLeastOneDword margin).toNat = max margin.toNat 4 := by
  change (if margin ≤ minRingMargin then minRingMargin else margin).toNat = _
  split
  case isTrue hle =>
    have hsmall : margin.toNat ≤ 4 := UInt32.le_iff_toNat_le.1 hle
    change 4 = _
    omega
  case isFalse hgt =>
    have hlarge : ¬margin.toNat ≤ 4 := fun hle => hgt (UInt32.le_iff_toNat_le.2 hle)
    omega

/-- Steps from position `r` forward to position `w` on a circle of `slots` positions. -/
def slotsBetween (slots r w : Nat) : Nat := (w % slots + slots - r % slots) % slots

theorem slotsBetween_lt {slots : Nat} (hslots : 0 < slots) (r w : Nat) :
    slotsBetween slots r w < slots := Nat.mod_lt _ hslots

/-- Going the distance from `r` to `w` leads to `w`. -/
theorem add_slotsBetween_mod {slots : Nat} (hslots : 0 < slots) (r w : Nat) :
    (r + slotsBetween slots r w) % slots = w % slots := by
  have hr := Nat.mod_lt r hslots
  have hsplit := Nat.div_add_mod r slots
  have hsum : r + (w % slots + slots - r % slots) = w % slots + slots * (r / slots + 1) := by
    rw [Nat.mul_add, Nat.mul_one]
    omega
  rw [slotsBetween, Nat.add_mod_mod, hsum, Nat.add_mul_mod_self_left, Nat.mod_mod]

/-- The distance is the only number of steps below a full turn that leads from `r` to `w`. -/
theorem slotsBetween_eq {slots r w steps : Nat} (hsteps : steps < slots)
    (hends : (r + steps) % slots = w % slots) : slotsBetween slots r w = steps := by
  have hslots : 0 < slots := by omega
  have hsame : r + slotsBetween slots r w ≡ r + steps [MOD slots] :=
    (add_slotsBetween_mod hslots r w).trans hends.symm
  exact (Nat.ModEq.add_left_cancel' r hsame).eq_of_lt_of_lt (slotsBetween_lt hslots r w) hsteps

/-- Whoever walks toward `w` comes nearer by as much. -/
theorem slotsBetween_advance {slots r w count : Nat} (hslots : 0 < slots)
    (hcount : count ≤ slotsBetween slots r w) :
    slotsBetween slots ((r + count) % slots) w = slotsBetween slots r w - count := by
  have hlt := slotsBetween_lt hslots r w
  have hrest : r + count + (slotsBetween slots r w - count) = r + slotsBetween slots r w := by omega
  apply slotsBetween_eq
  · omega
  · rw [Nat.mod_add_mod, hrest, add_slotsBetween_mod hslots]

/-- The space in use is the distance from the reader to the writer. -/
theorem toNat_usedSpace {r w size : UInt32} (hsize : 0 < size.toNat) :
    (usedSpace r w size).toNat = slotsBetween size.toNat (4 * r.toNat) (4 * w.toNat) := by
  have hr := toNat_ringOffset r hsize
  have hw := toNat_ringOffset w hsize
  have hrlt : 4 * r.toNat % size.toNat < size.toNat := Nat.mod_lt _ hsize
  have hwlt : 4 * w.toNat % size.toNat < size.toNat := Nat.mod_lt _ hsize
  have hbound := size.toNat_lt
  rw [slotsBetween]
  generalize 4 * r.toNat % size.toNat = start at *
  generalize 4 * w.toNat % size.toNat = stop at *
  simp only [usedSpace]
  split
  case isTrue hle =>
    have hnat : start ≤ stop := by
      rw [← hr, ← hw]
      exact UInt32.le_iff_toNat_le.1 hle
    have hsum : stop + size.toNat - start = stop - start + size.toNat := by omega
    have hlt : stop - start < size.toNat := by omega
    rw [UInt32.toNat_sub_of_le _ _ hle, hr, hw, hsum, Nat.add_mod_right, Nat.mod_eq_of_lt hlt]
  case isFalse hgt =>
    have hnat : stop < start := by
      rw [← hr, ← hw]
      exact Nat.lt_of_not_le fun hle => hgt (UInt32.le_iff_toNat_le.2 hle)
    have hroom : ringOffset r size ≤ size := UInt32.le_iff_toNat_le.2 (by omega)
    have hword : size.toNat - start + stop < 2 ^ 32 := by omega
    have hsum : stop + size.toNat - start = size.toNat - start + stop := by omega
    have hlt : size.toNat - start + stop < size.toNat := by omega
    rw [UInt32.toNat_add, UInt32.toNat_sub_of_le _ _ hroom, hr, hw, Nat.mod_eq_of_lt hword, hsum,
      Nat.mod_eq_of_lt hlt]

/-- The free space is what the distance and the margin leave of the ring, cut off at zero. -/
theorem toNat_freeSpace {r w size : UInt32} (hsize : 0 < size.toNat) (margin : UInt32) :
    (freeSpace r w size margin).toNat =
      size.toNat - slotsBetween size.toNat (4 * r.toNat) (4 * w.toNat) - max margin.toNat 4 := by
  have hne : size ≠ 0 := by
    rintro rfl
    exact Nat.lt_irrefl 0 hsize
  rw [freeSpace, if_neg hne, toNat_saturatingSub, toNat_saturatingSub, toNat_usedSpace hsize,
    toNat_atLeastOneDword]

/-- On a circle of whole dwords the distance in bytes is the distance in dwords. -/
theorem slotsBetween_mul_four (slots r w : Nat) :
    slotsBetween (4 * slots) (4 * r) (4 * w) = 4 * slotsBetween slots r w := by
  have hbytes : 4 * (w % slots) + 4 * slots - 4 * (r % slots) =
      4 * (w % slots + slots - r % slots) := by omega
  rw [slotsBetween, slotsBetween, Nat.mul_mod_mul_left, Nat.mul_mod_mul_left, hbytes,
    Nat.mul_mod_mul_left]

end GpuControl
