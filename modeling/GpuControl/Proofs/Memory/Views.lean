import GpuControl.Proofs.Memory.Physical
import GpuControl.Window.Aperture
import GpuControl.Window.Doorbell
import GpuControl.Window.Registers

namespace GpuControl

namespace SimulatedBus

/-- A window over memory that the bus has mapped. -/
structure LiveWindow (bus : SimulatedBus) where
  window : Window
  located : bus.locate window.mapping.phys window.mapping.len = some window.mapping.start

variable {bus : SimulatedBus}

namespace LiveWindow

/-- Every mapping that the bus hands out makes a window of each kind. -/
def ofMapping (kind : WindowKind) {after : SimulatedBus} {phys : UInt64} {len : Nat}
    {mapping : Mapping} (hmap : bus.mapPhysical phys len = (.ok mapping, after)) :
    LiveWindow bus :=
  ⟨⟨kind, phys, mapping⟩, locate_of_mapPhysical hmap⟩

def base (w : LiveWindow bus) : Nat := w.window.mapping.phys.toNat

/-- An access to `count` bytes is served if its offset is a multiple of `alignment` and the bytes
end inside the window. -/
def Serves (w : LiveWindow bus) (alignment offset count : Nat) : Prop :=
  offset % alignment = 0 ∧ offset + count ≤ w.window.len

instance (w : LiveWindow bus) (alignment offset count : Nat) :
    Decidable (w.Serves alignment offset count) := inferInstanceAs (Decidable (_ ∧ _))

/-- What a load is to return where memory shows the bytes `p`. -/
def loadAt (w : LiveWindow bus) (p : PhysicalBytes) (alignment offset count : Nat) :
    Option (List UInt8) :=
  if w.Serves alignment offset count then some (p.load (w.base + offset) count) else none

def storeAt (w : LiveWindow bus) (alignment offset : Nat) (bytes : List UInt8) :
    Option PhysicalStore :=
  if w.Serves alignment offset bytes.length then some ⟨w.base + offset, bytes⟩ else none

theorem serves_one_iff {w : LiveWindow bus} {offset count : Nat} :
    w.Serves 1 offset count ↔ w.window.Contains offset count :=
  ⟨And.right, fun hin => ⟨Nat.mod_one _, hin⟩⟩

/-- The cells behind a window keep the addresses from its base on. -/
theorem keeps_cell (w : LiveWindow bus) {offset count i : Nat}
    (hfits : offset + count ≤ w.window.len) (hi : i < count) :
    bus.Keeps ((w.window.cell offset).advance i) (w.base + offset + i) := by
  have hlt : offset + i < w.window.mapping.len := Nat.lt_of_lt_of_le (by omega) hfits
  have hkeeps := keeps_of_locate w.located hlt
  rw [← Nat.add_assoc] at hkeeps
  rw [Window.cell, Cell.advance_advance]
  exact hkeeps

end LiveWindow

theorem uint64_mod_eq_zero_iff {a n : UInt64} : a % n = 0 ↔ a.toNat % n.toNat = 0 := by
  rw [← UInt64.toNat_inj, UInt64.toNat_mod]
  rfl

/-- A dword has a place if it is aligned and some region holds all of it. -/
theorem exists_dwordCell_iff {phys : UInt64} :
    (∃ c, bus.dwordCell phys = .ok c) ↔ phys.toNat % 4 = 0 ∧ bus.Backed phys 4 := by
  have hmod : phys % 4 = 0 ↔ phys.toNat % 4 = 0 := uint64_mod_eq_zero_iff
  unfold dwordCell
  rw [← hmod, ← exists_locate_iff]
  cases hlocate : bus.locate phys 4 with
  | none => split <;> simp
  | some d => split <;> simp_all

theorem locate_of_dwordCell {phys : UInt64} {c : Cell} (hcell : bus.dwordCell phys = .ok c) :
    bus.locate phys 4 = some c := by
  unfold dwordCell at hcell
  split at hcell
  · cases hcell
  split at hcell
  · cases hcell
  next hlocate =>
  cases hcell
  exact hlocate

/-- A dword inside a range that is backed is read where the range is kept. -/
theorem Sound.peek32_eq (hsound : bus.Sound) {phys addr : UInt64} {len offset : Nat} {c : Cell}
    (hlocate : bus.locate phys len = some c) (hfits : offset + 4 ≤ len)
    (haddr : addr.toNat = phys.toNat + offset) (haligned : addr.toNat % 4 = 0) (m : Memory) :
    bus.peek32 m addr = .ok (m.loadDword (c.advance offset)) := by
  have hmod : addr % 4 = 0 := uint64_mod_eq_zero_iff.2 haligned
  rw [peek32, dwordCell, if_neg (not_not_intro hmod),
    hsound.locate_inside hlocate hfits (by decide) haddr]
  rfl

/-- Every read returns the bytes of `p` at its physical addresses, or is refused. -/
structure ReadsAs (bus : SimulatedBus) (m : Memory) (p : PhysicalBytes) : Prop where
  peek32 (phys : UInt64) : bus.peek32 m phys =
    if phys.toNat % 4 ≠ 0 then .error (.unaligned phys)
    else if bus.Backed phys 4 then .ok (LittleEndian.toDword (p.load phys.toNat 4))
    else .error (.unbacked phys)
  read32 (w : LiveWindow bus) (offset : Nat) :
    w.window.read32 m offset = (w.loadAt p 4 offset 4).map LittleEndian.toDword
  read64 (w : LiveWindow bus) (offset : Nat) :
    w.window.read64 m offset = (w.loadAt p 8 offset 8).map LittleEndian.toQword
  readBytes (w : LiveWindow bus) (offset len : Nat) :
    w.window.readBytes m offset len = w.loadAt p 1 offset len
  view (w : LiveWindow bus) (offset len : Nat) (bytes : List UInt8) :
    (w.window.updateView m offset len bytes).map (·.1) = w.loadAt p 1 offset len
  register32 (w : LiveWindow bus) (offset : Nat) : RegisterBlock.read32 ⟨w.window⟩ m offset =
    ((w.loadAt p 4 offset 4).map LittleEndian.toDword).getD sentinel
  register64 (w : LiveWindow bus) (offset : Nat) : RegisterBlock.read64 ⟨w.window⟩ m offset =
    ((w.loadAt p 8 offset 8).map LittleEndian.toQword).getD 0xFFFFFFFFFFFFFFFF
  video (w : LiveWindow bus) (totalBytes : UInt64) (offset len : Nat) :
    Aperture.read ⟨w.window, totalBytes⟩ m offset len = w.loadAt p 1 offset len
  videoNumbers (w : LiveWindow bus) (totalBytes : UInt64) {width : Nat} (offset count : Nat)
    (hwidth : 0 < width) :
    Aperture.readNumbers ⟨w.window, totalBytes⟩ m width offset count =
      if w.Serves 1 offset (count * width) then
        some ((List.range count).map fun i =>
          LittleEndian.decode (p.load (w.base + offset + i * width) width))
      else none
  videoView (w : LiveWindow bus) (totalBytes : UInt64) (offset len : Nat) (bytes : List UInt8) :
    (Aperture.updateView ⟨w.window, totalBytes⟩ m offset len bytes).map (·.1) =
      w.loadAt p 1 offset len

section Reading

variable {m : Memory} {p : PhysicalBytes} (hshows : bus.Shows m p)
include hshows

/-- Loads through a window are loads at the window's base plus the offset. -/
theorem Shows.load_cell (w : LiveWindow bus) {offset count : Nat}
    (hfits : offset + count ≤ w.window.len) :
    m.load (w.window.cell offset) count = p.load (w.base + offset) count :=
  hshows.load_eq fun _ hi => w.keeps_cell hfits hi

/-- Every load through a window is of this form. -/
theorem Shows.load_eq_loadAt (w : LiveWindow bus) (alignment offset count : Nat)
    {admitted : Prop} [Decidable admitted]
    (hadmitted : admitted ↔ w.Serves alignment offset count) :
    (if admitted then some (m.load (w.window.cell offset) count) else none) =
      w.loadAt p alignment offset count := by
  by_cases hin : admitted
  · rw [if_pos hin, LiveWindow.loadAt, if_pos (hadmitted.1 hin),
      hshows.load_cell w (hadmitted.1 hin).2]
  · rw [if_neg hin, LiveWindow.loadAt, if_neg (mt hadmitted.2 hin)]

/-- A dword is read where the window admits it, and it is made of the bytes that are shown there. -/
theorem Shows.read32_eq (w : LiveWindow bus) (offset : Nat) :
    w.window.read32 m offset = (w.loadAt p 4 offset 4).map LittleEndian.toDword := by
  have hadmits : w.window.Admits offset 4 ↔ w.Serves 4 offset 4 := Iff.rfl
  rw [← hshows.load_eq_loadAt w 4 offset 4 hadmits, Window.read32, apply_ite (Option.map _)]
  rfl

theorem Shows.read64_eq (w : LiveWindow bus) (offset : Nat) :
    w.window.read64 m offset = (w.loadAt p 8 offset 8).map LittleEndian.toQword := by
  have hadmits : w.window.Admits offset 8 ↔ w.Serves 8 offset 8 := Iff.rfl
  rw [← hshows.load_eq_loadAt w 8 offset 8 hadmits, Window.read64, apply_ite (Option.map _)]
  rfl

theorem Shows.readBytes_eq (w : LiveWindow bus) (offset len : Nat) :
    w.window.readBytes m offset len = w.loadAt p 1 offset len :=
  hshows.load_eq_loadAt w 1 offset len LiveWindow.serves_one_iff.symm

/-- A view of a range holds the bytes that the range showed before it is changed. -/
theorem Shows.view_eq (w : LiveWindow bus) (offset len : Nat) (bytes : List UInt8) :
    (w.window.updateView m offset len bytes).map (·.1) = w.loadAt p 1 offset len := by
  rw [← hshows.readBytes_eq, Window.updateView, apply_ite (Option.map _)]
  rfl

/-- From outside the driver the same bytes are read, with refusals of their own kinds. -/
theorem Shows.peek32_eq (phys : UInt64) : bus.peek32 m phys =
    if phys.toNat % 4 ≠ 0 then .error (.unaligned phys)
    else if bus.Backed phys 4 then .ok (LittleEndian.toDword (p.load phys.toNat 4))
    else .error (.unbacked phys) := by
  have hmod : phys % 4 = 0 ↔ phys.toNat % 4 = 0 := uint64_mod_eq_zero_iff
  unfold peek32 dwordCell
  by_cases haligned : phys.toNat % 4 = 0
  case neg =>
    rw [if_pos (mt hmod.1 haligned), if_pos haligned]
    rfl
  rw [if_neg (not_not_intro (hmod.2 haligned)), if_neg (not_not_intro haligned)]
  cases hlocate : bus.locate phys 4 with
  | none =>
    rw [if_neg (locate_eq_none_iff.1 hlocate)]
    rfl
  | some c =>
    have hload : m.load c 4 = p.load phys.toNat 4 :=
      hshows.load_eq fun _ hi => keeps_of_locate hlocate hi
    rw [if_pos (exists_locate_iff.1 ⟨c, hlocate⟩), ← hload]
    rfl

/-- Numbers are cut out of the bytes that are shown, one behind the other. -/
theorem Shows.readNumbers_eq (w : LiveWindow bus) (totalBytes : UInt64) {width : Nat}
    (offset count : Nat) (hwidth : 0 < width) :
    Aperture.readNumbers ⟨w.window, totalBytes⟩ m width offset count =
      if w.Serves 1 offset (count * width) then
        some ((List.range count).map fun i =>
          LittleEndian.decode (p.load (w.base + offset + i * width) width))
      else none := by
  rw [Aperture.readNumbers, Aperture.read, hshows.readBytes_eq, LiveWindow.loadAt,
    apply_ite (Option.map _), Option.map_some, Option.map_none]
  congr 2
  -- As many numbers are cut as were asked for, each from its own bytes.
  rw [Aperture.numbers, PhysicalBytes.length_load, Nat.mul_div_cancel _ hwidth]
  refine List.map_congr_left fun i hi => ?_
  have hi : i + 1 ≤ count := List.mem_range.1 hi
  have hfits : i * width + width ≤ count * width := by
    rw [← Nat.succ_mul]
    exact Nat.mul_le_mul_right width hi
  rw [PhysicalBytes.load_drop_take p _ hfits]

/-- Every way of reading simulated memory returns the bytes that it shows. -/
theorem Shows.readsAs : bus.ReadsAs m p where
  peek32 := hshows.peek32_eq
  read32 := hshows.read32_eq
  read64 := hshows.read64_eq
  readBytes := hshows.readBytes_eq
  view := hshows.view_eq
  register32 w offset := congrArg (·.getD sentinel) (hshows.read32_eq w offset)
  register64 w offset := congrArg (·.getD 0xFFFFFFFFFFFFFFFF) (hshows.read64_eq w offset)
  video w _ := hshows.readBytes_eq w
  videoNumbers := hshows.readNumbers_eq
  videoView w _ := hshows.view_eq w

end Reading

/-- What the stores through a window report. -/
structure LiveWindow.Reports (w : LiveWindow bus) (m : Memory) : Prop where
  write32 (offset : Nat) (value : UInt32) :
    (w.window.write32 m offset value).isSome ↔ w.Serves 4 offset 4
  write64 (offset : Nat) (value : UInt64) :
    (w.window.write64 m offset value).isSome ↔ w.Serves 8 offset 8
  writeBytes (offset : Nat) (bytes : List UInt8) :
    (w.window.writeBytes m offset bytes).isSome ↔ w.Serves 1 offset bytes.length
  ring (barOffset slot : Nat) (value : UInt32) :
    (DoorbellWindow.ring ⟨w.window, barOffset⟩ m slot value).isSome ↔
      w.Serves 4 (slot + barOffset) 4
  video (totalBytes : UInt64) (offset : Nat) (bytes : List UInt8) :
    (Aperture.write ⟨w.window, totalBytes⟩ m offset bytes).1 =
      if w.Serves 1 offset bytes.length then bytes.length else 0
  videoNumbers (totalBytes : UInt64) {width : Nat} (offset : Nat) (values : List Nat)
    (hwidth : 0 < width) :
    (Aperture.writeNumbers ⟨w.window, totalBytes⟩ m width offset values).1 =
      if w.Serves 1 offset (values.length * width) then values.length else 0

/-- An access succeeds if and only if the window serves it. -/
theorem LiveWindow.isSome_iff_serves {w : LiveWindow bus} {α : Type} {result : α}
    {alignment offset count : Nat} {admitted : Prop} [Decidable admitted]
    (hadmitted : admitted ↔ w.Serves alignment offset count) :
    (if admitted then some result else none).isSome ↔ w.Serves alignment offset count := by
  rw [← hadmitted]
  split <;> simp_all

theorem LiveWindow.write_fst_eq (w : LiveWindow bus) (m : Memory) (totalBytes : UInt64)
    (offset : Nat) (bytes : List UInt8) :
    (Aperture.write ⟨w.window, totalBytes⟩ m offset bytes).1 =
      if w.Serves 1 offset bytes.length then bytes.length else 0 := by
  unfold Aperture.write Window.writeBytes
  by_cases hin : w.Serves 1 offset bytes.length
  · simp only [if_pos (LiveWindow.serves_one_iff.1 hin), if_pos hin]
  · simp only [if_neg (mt LiveWindow.serves_one_iff.2 hin), if_neg hin]

/-- Every way of writing through a window reports whether the window served it. -/
theorem LiveWindow.reports (w : LiveWindow bus) (m : Memory) : w.Reports m where
  write32 _ _ := isSome_iff_serves Iff.rfl
  write64 _ _ := isSome_iff_serves Iff.rfl
  writeBytes _ _ := isSome_iff_serves serves_one_iff.symm
  ring _ _ _ := isSome_iff_serves Iff.rfl
  video := w.write_fst_eq m
  videoNumbers totalBytes width offset values hwidth := by
    have hcount := w.write_fst_eq m totalBytes offset (values.flatMap (LittleEndian.encode width))
    rw [LittleEndian.length_flatMap_encode] at hcount
    rw [Aperture.writeNumbers]
    simp only [hcount]
    split
    · exact Nat.mul_div_cancel _ hwidth
    · exact Nat.zero_div _

end SimulatedBus

end GpuControl
