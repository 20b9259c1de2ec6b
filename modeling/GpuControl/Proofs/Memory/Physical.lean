import GpuControl.Platform.SimulatedBus
import GpuControl.Proofs.Memory.Access
import Mathlib.Data.List.GetD

namespace GpuControl

abbrev PhysicalBytes := Nat → UInt8

/-- Bytes put from a physical address on. -/
structure PhysicalStore where
  address : Nat
  bytes : List UInt8
deriving DecidableEq, Repr

namespace PhysicalStore

def Covers (s : PhysicalStore) (a : Nat) : Prop := s.address ≤ a ∧ a < s.address + s.bytes.length

instance (s : PhysicalStore) (a : Nat) : Decidable (s.Covers a) :=
  inferInstanceAs (Decidable (_ ∧ _))

/-- The byte that the store puts at an address it covers. -/
def byteAt (s : PhysicalStore) (a : Nat) : UInt8 := s.bytes.getD (a - s.address) 0

end PhysicalStore

namespace PhysicalBytes

def load (p : PhysicalBytes) (a count : Nat) : List UInt8 :=
  (List.range count).map fun i => p (a + i)

def store (p : PhysicalBytes) (s : PhysicalStore) : PhysicalBytes := fun a =>
  if s.Covers a then s.byteAt a else p a

/-- The byte that was stored last at each address, and zero where none was. The log has the latest
store first. -/
def lastStored (log : List PhysicalStore) : PhysicalBytes := fun a =>
  ((log.find? fun s => s.Covers a).map (·.byteAt a)).getD 0

variable {p : PhysicalBytes}

@[simp] theorem lastStored_cons (s : PhysicalStore) (log : List PhysicalStore) :
    lastStored (s :: log) = (lastStored log).store s := by
  funext a
  by_cases hcovers : s.Covers a
  · rw [lastStored, List.find?_cons_of_pos (by simpa using hcovers), store, if_pos hcovers]
    rfl
  · rw [lastStored, List.find?_cons_of_neg (by simpa using hcovers), store, if_neg hcovers]
    rfl

/-- A part of a load is the load of a part. -/
theorem load_drop_take (p : PhysicalBytes) (a : Nat) {first count total : Nat}
    (hfits : first + count ≤ total) :
    ((p.load a total).drop first).take count = p.load (a + first) count := by
  apply List.ext_getElem
  · simp only [load, List.length_take, List.length_drop, List.length_map, List.length_range]
    omega
  · intro i _ _
    simp only [load, List.getElem_take, List.getElem_drop, List.getElem_map, List.getElem_range,
      Nat.add_assoc]

theorem store_of_covers {s : PhysicalStore} {a : Nat} (p : PhysicalBytes) (hcovers : s.Covers a) :
    p.store s a = s.byteAt a := if_pos hcovers

theorem store_of_not_covers {s : PhysicalStore} {a : Nat} (p : PhysicalBytes)
    (hcovers : ¬s.Covers a) : p.store s a = p a := if_neg hcovers

/-- Bytes may be put in two parts. -/
theorem store_append (p : PhysicalBytes) (a : Nat) (first second : List UInt8) :
    p.store ⟨a, first ++ second⟩ = (p.store ⟨a, first⟩).store ⟨a + first.length, second⟩ := by
  funext x
  have hlength : (first ++ second).length = first.length + second.length := List.length_append
  by_cases hsecond : PhysicalStore.Covers ⟨a + first.length, second⟩ x
  · have hwhole : PhysicalStore.Covers ⟨a, first ++ second⟩ x := by
      simp only [PhysicalStore.Covers] at hsecond ⊢
      omega
    have hindex : x - a - first.length = x - (a + first.length) := by omega
    rw [store_of_covers _ hsecond, store_of_covers _ hwhole, PhysicalStore.byteAt,
      PhysicalStore.byteAt, List.getD_append_right _ _ _ _ (Nat.le_sub_of_add_le' hsecond.1),
      hindex]
  · rw [store_of_not_covers _ hsecond]
    by_cases hfirst : PhysicalStore.Covers ⟨a, first⟩ x
    · have hwhole : PhysicalStore.Covers ⟨a, first ++ second⟩ x := by
        simp only [PhysicalStore.Covers] at hfirst ⊢
        omega
      have hlt : x - a < first.length := by
        simp only [PhysicalStore.Covers] at hfirst
        omega
      rw [store_of_covers _ hfirst, store_of_covers _ hwhole, PhysicalStore.byteAt,
        PhysicalStore.byteAt, List.getD_append _ _ _ _ hlt]
    · have hwhole : ¬PhysicalStore.Covers ⟨a, first ++ second⟩ x := by
        simp only [PhysicalStore.Covers] at hfirst hsecond ⊢
        omega
      rw [store_of_not_covers _ hfirst, store_of_not_covers _ hwhole]

@[simp] theorem length_load (p : PhysicalBytes) (a count : Nat) :
    (p.load a count).length = count := by
  rw [load, List.length_map, List.length_range]

/-- Bytes that were there before change nothing. -/
theorem store_load (p : PhysicalBytes) (a count : Nat) : p.store ⟨a, p.load a count⟩ = p := by
  funext x
  by_cases hcovers : PhysicalStore.Covers ⟨a, p.load a count⟩ x
  · have hlo := hcovers.1
    have hhi := hcovers.2
    simp only [length_load] at hlo hhi
    have hlt : x - a < (p.load a count).length := by
      rw [length_load]
      omega
    have hback : a + (x - a) = x := by omega
    rw [store_of_covers _ hcovers, PhysicalStore.byteAt, List.getD_eq_getElem _ _ hlt]
    simp only [load, List.getElem_map, List.getElem_range, hback]
  · rw [store_of_not_covers _ hcovers]

theorem store_nil (p : PhysicalBytes) (a : Nat) : p.store ⟨a, []⟩ = p := by
  funext x
  apply store_of_not_covers
  rintro ⟨hlo, hhi⟩
  simp only [List.length_nil] at hlo hhi
  omega

/-- Of what is put over the `len` bytes from `a` on, only what differs from them counts. -/
theorem store_load_take_append (p : PhysicalBytes) (a len place : Nat) (bytes : List UInt8) :
    p.store ⟨a, ((p.load a len).take place ++ bytes).take len⟩ =
      p.store ⟨a + place, bytes.take (len - place)⟩ := by
  by_cases hplace : place ≤ len
  · have hhead : (p.load a len).take place = p.load a place :=
      p.load_drop_take a (show 0 + place ≤ len by omega)
    rw [hhead, List.take_append, length_load, List.take_of_length_le (by rw [length_load]; omega),
      store_append, store_load, length_load]
  · have hall : (p.load a len).take place = p.load a len :=
      List.take_of_length_le (by rw [length_load]; omega)
    have hnone : len - place = 0 := by omega
    rw [hall, List.take_left' (length_load p a len), store_load, hnone, List.take_zero, store_nil]

end PhysicalBytes

namespace MemoryRegion

def Holds (r : MemoryRegion) (a : Nat) : Prop :=
  r.base.toNat ≤ a ∧ a < r.base.toNat + r.size

/-- No physical address belongs to both. -/
def Disjoint (r t : MemoryRegion) : Prop := ∀ a, r.Holds a → ¬t.Holds a

theorem Contains.holds {r : MemoryRegion} {phys : UInt64} {len : Nat} (hin : r.Contains phys len)
    {i : Nat} (hi : i < len) : r.Holds (phys.toNat + i) := by
  obtain ⟨hbase, hend⟩ := hin
  have hbase := UInt64.le_iff_toNat_le.1 hbase
  unfold Holds
  omega

/-- A range inside a range that a region contains lies in the region too. -/
theorem Contains.inside {r : MemoryRegion} {phys addr : UInt64} {len offset count : Nat}
    (hin : r.Contains phys len) (hfits : offset + count ≤ len)
    (haddr : addr.toNat = phys.toNat + offset) : r.Contains addr count := by
  obtain ⟨hbase, hend⟩ := hin
  have hbase := UInt64.le_iff_toNat_le.1 hbase
  exact ⟨UInt64.le_iff_toNat_le.2 (by omega), by omega⟩

theorem Contains.shorter {r : MemoryRegion} {phys : UInt64} {len count : Nat}
    (hin : r.Contains phys len) (hcount : count ≤ len) : r.Contains phys count :=
  ⟨hin.1, Nat.le_trans (Nat.add_le_add_left hcount _) hin.2⟩

/-- Rounded up to whole qwords, ranges that start with one still do not overlap. -/
theorem ofLength_disjoint {base other : UInt64} {len otherLen : Nat}
    (hbase : base.toNat % 8 = 0) (hother : other.toNat % 8 = 0)
    (hapart : base.toNat + len ≤ other.toNat ∨ other.toNat + otherLen ≤ base.toNat) :
    (ofLength base len).Disjoint (ofLength other otherLen) := by
  intro a ⟨hlo, hhi⟩ ⟨hlo', hhi'⟩
  simp only [ofLength] at hlo hhi hlo' hhi'
  omega

/-- A region of at least so many bytes contains them. -/
theorem ofLength_contains (base : UInt64) (len : Nat) : (ofLength base len).Contains base len :=
  ⟨UInt64.le_refl _, by simp only [ofLength]; omega⟩

theorem size_ofLength_mod (base : UInt64) (len : Nat) : (ofLength base len).size % 8 = 0 :=
  Nat.mul_mod_left _ _

end MemoryRegion

namespace SimulatedBus

variable {bus : SimulatedBus} {m : Memory} {p : PhysicalBytes} {phys addr : UInt64}
  {len offset count a b : Nat} {c d : Cell}

/-- The regions are whole qwords, and none shares an address with another. -/
structure Sound (bus : SimulatedBus) : Prop where
  disjoint : bus.regions.Pairwise MemoryRegion.Disjoint
  base_mod : ∀ r ∈ bus.regions, r.base.toNat % 8 = 0
  size_mod : ∀ r ∈ bus.regions, r.size % 8 = 0

/-- Ranges that keep apart, at aligned bases, make a sound bus. -/
theorem sound_of_ranges {ranges : List (UInt64 × Nat)}
    (hregions : bus.regions = ranges.map fun range => .ofLength range.1 range.2)
    (haligned : ∀ range ∈ ranges, range.1.toNat % 8 = 0)
    (hapart : ranges.Pairwise fun range other =>
      range.1.toNat + range.2 ≤ other.1.toNat ∨ other.1.toNat + other.2 ≤ range.1.toNat) :
    bus.Sound where
  disjoint := by
    rw [hregions]
    refine List.pairwise_map.2 (hapart.imp_of_mem fun hrange hother hapart => ?_)
    exact MemoryRegion.ofLength_disjoint (haligned _ hrange) (haligned _ hother) hapart
  base_mod := by
    rw [hregions]
    intro r hr
    obtain ⟨range, hrange, rfl⟩ := List.mem_map.1 hr
    exact haligned range hrange
  size_mod := by
    rw [hregions]
    intro r hr
    obtain ⟨range, -, rfl⟩ := List.mem_map.1 hr
    exact MemoryRegion.size_ofLength_mod _ _

/-- The byte at the physical address is kept in the cell. -/
def Keeps (bus : SimulatedBus) (c : Cell) (a : Nat) : Prop :=
  ∃ r, bus.regions[c.region]? = some r ∧ r.Holds a ∧ c.offset = a - r.base.toNat

/-- One region has all bytes of the range. -/
def Backed (bus : SimulatedBus) (phys : UInt64) (len : Nat) : Prop :=
  ∃ r ∈ bus.regions, r.Contains phys len

instance (bus : SimulatedBus) (phys : UInt64) (len : Nat) : Decidable (bus.Backed phys len) :=
  inferInstanceAs (Decidable (∃ _ ∈ _, _))

/-- Memory holds the bytes at their physical addresses, as far as these are backed. -/
def Shows (bus : SimulatedBus) (m : Memory) (p : PhysicalBytes) : Prop :=
  ∀ c a, bus.Keeps c a → m.byte c = p a

/-- A range that is found lies in a region, at its distance from the region's base. -/
theorem exists_region_of_locate (hlocate : bus.locate phys len = some c) :
    ∃ r, bus.regions[c.region]? = some r ∧ r.Contains phys len ∧
      c.offset = phys.toNat - r.base.toNat := by
  obtain ⟨⟨r, i⟩, hfind, rfl⟩ := Option.map_eq_some_iff.1 hlocate
  have hin := List.find?_some hfind
  exact ⟨r, List.mem_zipIdx_iff_getElem?.1 (List.mem_of_find?_eq_some hfind),
    of_decide_eq_true hin, rfl⟩

/-- A range is found if some region holds all of it. -/
theorem exists_locate_iff : (∃ c, bus.locate phys len = some c) ↔ bus.Backed phys len := by
  constructor
  · rintro ⟨c, hlocate⟩
    obtain ⟨r, hr, hin, -⟩ := exists_region_of_locate hlocate
    exact ⟨r, List.mem_of_getElem? hr, hin⟩
  · rintro ⟨r, hr, hin⟩
    obtain ⟨i, hi⟩ := List.mem_iff_getElem?.1 hr
    refine Option.ne_none_iff_exists'.1 fun hnone => ?_
    have hout := List.find?_eq_none.1 (Option.map_eq_none_iff.1 hnone) (r, i)
      (List.mem_zipIdx_iff_getElem?.2 hi)
    exact hout (decide_eq_true hin)

theorem locate_eq_none_iff : bus.locate phys len = none ↔ ¬bus.Backed phys len := by
  rw [← exists_locate_iff, not_exists, Option.eq_none_iff_forall_not_mem]
  rfl

/-- The cells of a range that is found keep the bytes at its addresses, one after the other. -/
theorem keeps_of_locate (hlocate : bus.locate phys len = some c) {i : Nat} (hi : i < len) :
    bus.Keeps (c.advance i) (phys.toNat + i) := by
  obtain ⟨r, hr, hin, hoffset⟩ := exists_region_of_locate hlocate
  have hbase := UInt64.le_iff_toNat_le.1 hin.1
  refine ⟨r, hr, hin.holds hi, ?_⟩
  simp only [Cell.advance]
  omega

/-- A cell keeps one byte only. -/
theorem Keeps.address_eq (ha : bus.Keeps c a) (hb : bus.Keeps c b) : a = b := by
  obtain ⟨r, hr, ⟨hlo, -⟩, hoffset⟩ := ha
  obtain ⟨t, ht, ⟨hlo', -⟩, hoffset'⟩ := hb
  cases hr.symm.trans ht
  omega

/-- A byte is kept in one cell only. -/
theorem Sound.cell_eq (hsound : bus.Sound) (hc : bus.Keeps c a) (hd : bus.Keeps d a) : c = d := by
  obtain ⟨r, hr, hholds, hoffset⟩ := hc
  obtain ⟨t, ht, hholds', hoffset'⟩ := hd
  obtain ⟨i, o⟩ := c
  obtain ⟨j, u⟩ := d
  obtain ⟨hi, hri⟩ := List.getElem?_eq_some_iff.1 hr
  obtain ⟨hj, htj⟩ := List.getElem?_eq_some_iff.1 ht
  have hapart := List.pairwise_iff_getElem.1 hsound.disjoint
  -- Of two different regions, only one would have the address.
  rcases Nat.lt_trichotomy i j with hlt | rfl | hgt
  · refine absurd hholds' (hapart i j hi hj hlt a ?_ <| htj ▸ ·)
    rwa [hri]
  · cases hr.symm.trans ht
    simp only at hoffset hoffset'
    rw [hoffset, hoffset']
  · refine absurd hholds (hapart j i hj hi hgt a ?_ <| hri ▸ ·)
    rwa [htj]

/-- A mapping shows where the range is kept, and taking it is put on record. -/
theorem mapPhysical_ok {after : SimulatedBus} {mapping : Mapping}
    (hmap : bus.mapPhysical phys len = (.ok mapping, after)) :
    mapping.phys = phys ∧ mapping.len = len ∧ bus.locate phys len = some mapping.start ∧
      after = { bus with events := .mapped phys :: bus.events } := by
  unfold mapPhysical at hmap
  split at hmap
  · cases hmap
  split at hmap
  · cases hmap
  next hlocate =>
  split at hmap
  · cases hmap
  cases hmap
  exact ⟨rfl, rfl, hlocate, rfl⟩

/-- A mapping starts where the range behind it is found. -/
theorem locate_of_mapPhysical {after : SimulatedBus} {mapping : Mapping}
    (hmap : bus.mapPhysical phys len = (.ok mapping, after)) :
    bus.locate mapping.phys mapping.len = some mapping.start := by
  obtain ⟨hphys, hlen, hlocate, -⟩ := mapPhysical_ok hmap
  rw [hphys, hlen]
  exact hlocate

/-- Inside a range that is backed, addresses are counted as offsets are. -/
theorem Sound.locate_inside (hsound : bus.Sound) (hlocate : bus.locate phys len = some c)
    (hfits : offset + count ≤ len) (hcount : 0 < count)
    (haddr : addr.toNat = phys.toNat + offset) :
    bus.locate addr count = some (c.advance offset) := by
  obtain ⟨r, hr, hin, -⟩ := exists_region_of_locate hlocate
  obtain ⟨d, hd⟩ := exists_locate_iff.2
    ⟨r, List.mem_of_getElem? hr, hin.inside hfits haddr⟩
  have hkeeps := keeps_of_locate hlocate (i := offset) (by omega)
  have hkeeps' := keeps_of_locate hd hcount
  rw [Nat.add_zero, haddr] at hkeeps'
  rw [hd]
  exact congrArg some (hsound.cell_eq hkeeps' hkeeps)

/-- Memory that was never written shows zeros. -/
theorem shows_empty (bus : SimulatedBus) : bus.Shows .empty fun _ => 0 :=
  fun c _ _ => Memory.byte_empty c

/-- A load of cells that keep consecutive addresses is a load by address. -/
theorem Shows.load_eq (hshows : bus.Shows m p)
    (hkeeps : ∀ i < count, bus.Keeps (c.advance i) (a + i)) : m.load c count = p.load a count :=
  List.map_congr_left fun i hi => hshows _ _ (hkeeps i (List.mem_range.1 hi))

/-- A store through cells is a store by address, because no other cell keeps one of those
addresses. -/
theorem Shows.store (hsound : bus.Sound) (hshows : bus.Shows m p) {bytes : List UInt8}
    (hkeeps : ∀ i < bytes.length, bus.Keeps (c.advance i) (a + i)) :
    bus.Shows (m.store c bytes) (p.store ⟨a, bytes⟩) := by
  intro d x hd
  by_cases hcovers : PhysicalStore.Covers ⟨a, bytes⟩ x
  · obtain ⟨hlo, hhi⟩ := hcovers
    simp only at hlo hhi
    have hi : x - a < bytes.length := by omega
    have hkept := hkeeps (x - a) hi
    rw [Nat.add_sub_cancel' hlo] at hkept
    rw [hsound.cell_eq hd hkept, Memory.byte_store_advance m c bytes hi,
      PhysicalBytes.store_of_covers p ⟨hlo, hhi⟩, PhysicalStore.byteAt,
      List.getD_eq_getElem _ _ hi]
  · rw [PhysicalBytes.store_of_not_covers p hcovers, Memory.byte_store_of_not_within]
    · exact hshows d x hd
    · intro hin
      obtain ⟨i, hi, rfl⟩ := Cell.within_iff.1 hin
      have hx := hd.address_eq (hkeeps i hi)
      exact hcovers ⟨by simp only; omega, by simp only; omega⟩

end SimulatedBus

end GpuControl
