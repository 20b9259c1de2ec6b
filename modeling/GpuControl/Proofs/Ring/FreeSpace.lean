import GpuControl.Proofs.Ring.Space
import Mathlib.Algebra.Order.Ring.Int
import Mathlib.Data.Int.ModEq

namespace GpuControl

/-- The sum of two words, if it is one. -/
def checkedAdd (a b : UInt32) : Option UInt32 :=
  if a.toNat + b.toNat < UInt32.size then some (a + b) else none

/-- The difference of two words, if it is one. -/
def checkedSub (a b : UInt32) : Option UInt32 := if b ≤ a then some (a - b) else none

/-- `ringOffset` by arithmetic that gives nothing where the product leaves 64 bits, the divisor is
zero or the remainder leaves 32 bits. -/
def checkedOffset (ptr size : UInt32) : Option UInt32 := do
  let bytes ← if ptr.toNat * 4 < UInt64.size then some (ptr.toUInt64 * 4) else none
  let rest ← if size = 0 then none else some (bytes % size.toUInt64)
  if rest.toNat < UInt32.size then some rest.toUInt32 else none

/-- `usedSpace` by arithmetic that gives nothing where a step overflows. -/
def checkedUsed (readPtr writePtr size : UInt32) : Option UInt32 := do
  let r ← checkedOffset readPtr size
  let w ← checkedOffset writePtr size
  if r ≤ w then checkedSub w r
  else do
    let tail ← checkedSub size r
    checkedAdd tail w

/-- `freeSpace` by arithmetic that gives nothing where a step overflows. -/
def checkedFree (readPtr writePtr size margin : UInt32) : Option UInt32 :=
  if size = 0 then some 0
  else do
    let used ← checkedUsed readPtr writePtr size
    some (saturatingSub (saturatingSub size used) (atLeastOneDword margin))

/-- Bytes from the read to the write pointer: what their difference leaves modulo the size. -/
def usedBytes (readPtr writePtr size : UInt32) : Int :=
  (4 * (writePtr.toNat : Int) - 4 * (readPtr.toNat : Int)) % size.toNat

variable {readPtr writePtr size margin : UInt32}

theorem toNat_pos_of_ne_zero (hsize : size ≠ 0) : 0 < size.toNat :=
  Nat.pos_of_ne_zero fun hzero => hsize (UInt32.toNat_inj.1 hzero)

/-- No step of the offset overflows. -/
theorem checkedOffset_eq (ptr : UInt32) (hsize : size ≠ 0) :
    checkedOffset ptr size = some (ringOffset ptr size) := by
  have hptr := ptr.toNat_lt
  have hpos := toNat_pos_of_ne_zero hsize
  have hproduct : ptr.toNat * 4 < UInt64.size := by
    change ptr.toNat * 4 < 2 ^ 64
    omega
  have hrest : (ptr.toUInt64 * 4 % size.toUInt64).toNat < UInt32.size := by
    rw [UInt64.toNat_mod, UInt32.toNat_toUInt64]
    exact Nat.lt_trans (Nat.mod_lt _ hpos) size.toNat_lt
  simp only [checkedOffset, if_pos hproduct, if_neg hsize, Option.bind_eq_bind, Option.bind_some,
    if_pos hrest, ringOffset]

/-- No step of the space in use overflows. -/
theorem checkedUsed_eq (readPtr writePtr : UInt32) (hsize : size ≠ 0) :
    checkedUsed readPtr writePtr size = some (usedSpace readPtr writePtr size) := by
  have hpos := toNat_pos_of_ne_zero hsize
  have hr := toNat_ringOffset readPtr hpos
  have hw := toNat_ringOffset writePtr hpos
  have hrlt : 4 * readPtr.toNat % size.toNat < size.toNat := Nat.mod_lt _ hpos
  have hbound := size.toNat_lt
  simp only [checkedUsed, checkedOffset_eq _ hsize, Option.bind_eq_bind, Option.bind_some,
    usedSpace]
  split
  case isTrue hle => exact if_pos hle
  case isFalse hgt =>
    have hbehind : (ringOffset writePtr size).toNat < (ringOffset readPtr size).toNat :=
      Nat.lt_of_not_le fun hle => hgt (UInt32.le_iff_toNat_le.2 hle)
    have hroom : ringOffset readPtr size ≤ size := UInt32.le_iff_toNat_le.2 (by omega)
    have hsum : (size - ringOffset readPtr size).toNat + (ringOffset writePtr size).toNat <
        UInt32.size := by
      rw [UInt32.toNat_sub_of_le _ _ hroom]
      change _ < 2 ^ 32
      omega
    simp only [checkedSub, if_pos hroom, Option.bind_some, checkedAdd, if_pos hsum]

/-- No step of the free space overflows, whatever the registers hold. -/
theorem checkedFree_eq (readPtr writePtr size margin : UInt32) :
    checkedFree readPtr writePtr size margin = some (freeSpace readPtr writePtr size margin) := by
  unfold checkedFree freeSpace
  split
  case isTrue => rfl
  case isFalse hsize =>
    rw [checkedUsed_eq readPtr writePtr hsize, Option.bind_eq_bind, Option.bind_some]

/-- The distance around a circle is the difference of the positions modulo the circle. -/
theorem coe_slotsBetween {slots : Nat} (hslots : 0 < slots) (r w : Nat) :
    (slotsBetween slots r w : Int) = ((w : Int) - r) % slots := by
  have hr := Nat.mod_lt r hslots
  have hrsplit : (r : Int) % slots + slots * (r / slots) = r := Int.emod_add_mul_ediv _ _
  have hwsplit : (w : Int) % slots + slots * (w / slots) = w := Int.emod_add_mul_ediv _ _
  have hturn : (w : Int) % slots + slots - r % slots =
      w - r + slots * (1 + r / slots - w / slots) := by
    rw [mul_sub, mul_add]
    omega
  rw [slotsBetween, Int.natCast_mod, Int.ofNat_sub (by omega), Int.natCast_add, Int.natCast_mod,
    Int.natCast_mod, hturn, Int.add_mul_emod_self_left]

/-- The free space is what is left of the ring over the margin, and never less than nothing. -/
theorem coe_freeSpace (readPtr writePtr margin : UInt32) (hsize : size ≠ 0) :
    ((freeSpace readPtr writePtr size margin).toNat : Int) =
      max 0 (size.toNat - usedBytes readPtr writePtr size - max margin.toNat 4) := by
  have hpos := toNat_pos_of_ne_zero hsize
  have hused : (slotsBetween size.toNat (4 * readPtr.toNat) (4 * writePtr.toNat) : Int) =
      usedBytes readPtr writePtr size := by
    rw [coe_slotsBetween hpos, usedBytes]
    norm_cast
  rw [toNat_freeSpace hpos, ← hused]
  omega

theorem usedBytes_nonneg (readPtr writePtr : UInt32) (hsize : size ≠ 0) :
    0 ≤ usedBytes readPtr writePtr size :=
  Int.emod_nonneg _ (by have := toNat_pos_of_ne_zero hsize; omega)

theorem usedBytes_lt (readPtr writePtr : UInt32) (hsize : size ≠ 0) :
    usedBytes readPtr writePtr size < size.toNat :=
  Int.emod_lt_of_pos _ (by have := toNat_pos_of_ne_zero hsize; omega)

/-- Of a pointer only its place on the ring counts. -/
theorem usedBytes_eq_emod {r w : Nat} (hr : 4 * readPtr.toNat ≡ 4 * r [MOD size.toNat])
    (hw : 4 * writePtr.toNat ≡ 4 * w [MOD size.toNat]) :
    usedBytes readPtr writePtr size = (4 * (w : Int) - 4 * (r : Int)) % size.toNat := by
  have hsub := (Int.natCast_modEq_iff.2 hw).sub (Int.natCast_modEq_iff.2 hr)
  push_cast at hsub
  exact hsub

/-- Whoever reads comes nearer to the write pointer by as much as was read. -/
theorem usedBytes_of_reader_advanced {next : UInt32} {count : Nat} (hsize : size ≠ 0)
    (hnext : 4 * next.toNat ≡ 4 * (readPtr.toNat + count) [MOD size.toNat])
    (hcount : 4 * (count : Int) ≤ usedBytes readPtr writePtr size) :
    usedBytes next writePtr size = usedBytes readPtr writePtr size - 4 * count := by
  have hlt := usedBytes_lt readPtr writePtr hsize
  have hdistance : 4 * (writePtr.toNat : Int) - 4 * ((readPtr.toNat + count : Nat) : Int) =
      4 * writePtr.toNat - 4 * readPtr.toNat - 4 * count := by omega
  rw [usedBytes_eq_emod hnext (Nat.ModEq.refl _), hdistance, ← Int.emod_sub_emod, ← usedBytes]
  exact Int.emod_eq_of_lt (Int.sub_nonneg.2 hcount) (by omega)

/-- The pointers count only through the space that they leave in use. -/
theorem freeSpace_congr {r w r' w' : UInt32}
    (hused : usedBytes r' w' size = usedBytes r w size) :
    freeSpace r' w' size margin = freeSpace r w size margin := by
  by_cases hsize : size = 0
  · rw [freeSpace, freeSpace, if_pos hsize, if_pos hsize]
  · have hfree := coe_freeSpace r' w' margin hsize
    rw [hused, ← coe_freeSpace r w margin hsize] at hfree
    exact UInt32.toNat_inj.1 (Int.ofNat.inj hfree)

/-- The free space is what the size leaves once the distance of the pointers, modulo the size, and
the margin are taken off, and no step on the way to it overflows. So one dword always stays free,
of each pointer only its place on the ring counts, pointers that advance together change nothing,
and while there is room, every dword read is a dword more. -/
theorem freeSpace_exact (readPtr writePtr size margin : UInt32) :
    checkedFree readPtr writePtr size margin = some (freeSpace readPtr writePtr size margin) ∧
    ((freeSpace readPtr writePtr size margin).toNat : Int) =
      (if size = 0 then 0
      else max 0 ((size.toNat : Int) - usedBytes readPtr writePtr size - max margin.toNat 4)) ∧
    ((freeSpace readPtr writePtr size margin).toNat : Int) ≤ max 0 ((size.toNat : Int) - 4) ∧
    (∀ r w : UInt32, 4 * r.toNat ≡ 4 * readPtr.toNat [MOD size.toNat] →
      4 * w.toNat ≡ 4 * writePtr.toNat [MOD size.toNat] →
      freeSpace r w size margin = freeSpace readPtr writePtr size margin) ∧
    (∀ (r w : UInt32) (count : Nat), r.toNat = readPtr.toNat + count →
      w.toNat = writePtr.toNat + count →
      freeSpace r w size margin = freeSpace readPtr writePtr size margin) ∧
    (∀ (r : UInt32) (count : Nat),
      4 * r.toNat ≡ 4 * (readPtr.toNat + count) [MOD size.toNat] →
      4 * (count : Int) ≤ usedBytes readPtr writePtr size →
      freeSpace readPtr writePtr size margin ≠ 0 →
      (freeSpace r writePtr size margin).toNat =
        (freeSpace readPtr writePtr size margin).toNat + 4 * count) := by
  refine ⟨checkedFree_eq readPtr writePtr size margin, ?_, ?_, ?_, ?_, ?_⟩
  · split
    case isTrue hzero => rw [freeSpace, if_pos hzero]; rfl
    case isFalse hsize => exact coe_freeSpace readPtr writePtr margin hsize
  · by_cases hsize : size = 0
    · rw [freeSpace, if_pos hsize]
      exact le_max_left 0 _
    · have hused := usedBytes_nonneg readPtr writePtr hsize
      rw [coe_freeSpace readPtr writePtr margin hsize]
      omega
  · intro r w hr hw
    exact freeSpace_congr (usedBytes_eq_emod hr hw)
  · intro r w count hr hw
    apply freeSpace_congr
    have hdistance : 4 * (w.toNat : Int) - 4 * (r.toNat : Int) =
        4 * writePtr.toNat - 4 * readPtr.toNat := by omega
    rw [usedBytes, hdistance, usedBytes]
  · intro r count hr hcount hroom
    have hsize : size ≠ 0 := by
      rintro rfl
      exact hroom rfl
    have hfree := coe_freeSpace readPtr writePtr margin hsize
    have hpositive : (freeSpace readPtr writePtr size margin).toNat ≠ 0 := fun hzero =>
      hroom (UInt32.toNat_inj.1 hzero)
    have hmore := coe_freeSpace r writePtr margin hsize
    rw [usedBytes_of_reader_advanced hsize hr hcount] at hmore
    omega

/-- On a ring of 102 bytes, no whole number of dwords, with a read pointer whose byte offset takes
more than 32 bits, pointers two whole turns away or five dwords on together leave the same room, and
five dwords read are twenty bytes more. -/
theorem freeSpace_exact_sample :
    freeSpace 0xFFFFFFF0 3 102 7 = 23 ∧ freeSpace 0xFFFFFFBD 54 102 7 = 23 ∧
    freeSpace 0xFFFFFFF5 8 102 7 = 23 ∧ freeSpace 0xFFFFFFF5 3 102 7 = 43 := by
  have hstart : freeSpace 0xFFFFFFF0 3 102 7 = 23 := by decide
  obtain ⟨-, -, -, hplace, htogether, hread⟩ := freeSpace_exact 0xFFFFFFF0 3 102 7
  have hmore := hread 0xFFFFFFF5 5 (by decide) (by decide) (by decide)
  refine ⟨hstart, ?_, ?_, ?_⟩
  · rw [hplace 0xFFFFFFBD 54 (by decide) (by decide), hstart]
  · rw [htogether 0xFFFFFFF5 8 5 (by decide) (by decide), hstart]
  · rw [hstart] at hmore
    exact UInt32.toNat_inj.1 hmore

end GpuControl
