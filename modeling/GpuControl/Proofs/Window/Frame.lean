import GpuControl.Proofs.Memory.Access
import GpuControl.Window.Registers

namespace GpuControl

namespace Window

/-- The byte lies in the window. -/
def Owns (w : Window) (c : Cell) : Prop := c.Within w.mapping.start w.len

/-- No byte lies in both windows. -/
def Disjoint (w v : Window) : Prop := ∀ c, w.Owns c → ¬v.Owns c

/-- The two memories hold the same bytes in the window. -/
def SameBytes (w : Window) (m m' : Memory) : Prop := ∀ c, w.Owns c → m'.byte c = m.byte c

/-- Memory after a word write that is dropped where the window refuses it. -/
def write32OrDrop (w : Window) (m : Memory) (offset : Nat) (value : UInt32) : Memory :=
  (w.write32 m offset value).getD m

/-- Between the two memories the window took a word at the offset, if it has one there, and no other
of its bytes changed. -/
def Takes (w : Window) (offset : Nat) (value : UInt32) (m m' : Memory) : Prop :=
  if w.Contains offset 4 then
    m'.loadDword (w.cell offset) = value ∧
      ∀ i < w.len, i < offset ∨ offset + 4 ≤ i → m'.byte (w.cell i) = m.byte (w.cell i)
  else w.SameBytes m m'

theorem Disjoint.symm {w v : Window} (hdisjoint : w.Disjoint v) : v.Disjoint w :=
  fun c hv hw => hdisjoint c hw hv

theorem SameBytes.refl (w : Window) (m : Memory) : w.SameBytes m m := fun _ _ => rfl

theorem SameBytes.trans {w : Window} {m m' m'' : Memory} (h : w.SameBytes m m')
    (h' : w.SameBytes m' m'') : w.SameBytes m m'' :=
  fun c hc => (h' c hc).trans (h c hc)

theorem owns_cell_iff {w : Window} {i : Nat} : w.Owns (w.cell i) ↔ i < w.len := by
  simp only [Owns, cell, Cell.Within, Cell.advance, true_and]
  omega

/-- A window owns every byte of a range that it contains. -/
theorem owns_of_within {w : Window} {c : Cell} {offset width : Nat}
    (hin : w.Contains offset width) (hc : c.Within (w.cell offset) width) : w.Owns c := by
  obtain ⟨i, hi, rfl⟩ := Cell.within_iff.1 hc
  unfold Contains at hin
  have howns : w.Owns (w.cell (offset + i)) := owns_cell_iff.2 (by omega)
  simpa only [cell, Cell.advance_advance] using howns

/-- A read of a window depends on the window's bytes only. -/
theorem read32_congr {w : Window} {m m' : Memory} (hsame : w.SameBytes m m') (offset : Nat) :
    w.read32 m' offset = w.read32 m offset := by
  unfold read32
  split
  case isTrue hadmits =>
    refine congrArg some (Memory.loadDword_congr fun i hi => hsame _ ?_)
    exact owns_of_within hadmits.2 (Cell.within_iff.2 ⟨i, hi, rfl⟩)
  case isFalse => rfl

theorem read64_congr {w : Window} {m m' : Memory} (hsame : w.SameBytes m m') (offset : Nat) :
    w.read64 m' offset = w.read64 m offset := by
  unfold read64
  split
  case isTrue hadmits =>
    refine congrArg some (Memory.loadQword_congr fun i hi => hsame _ ?_)
    exact owns_of_within hadmits.2 (Cell.within_iff.2 ⟨i, hi, rfl⟩)
  case isFalse => rfl

/-- A write that the window admits is a store at its base plus the offset. -/
theorem write32OrDrop_of_admits {w : Window} {offset : Nat} (hadmits : w.Admits offset 4)
    (m : Memory) (value : UInt32) :
    w.write32OrDrop m offset value = m.storeDword (w.cell offset) value := by
  rw [write32OrDrop, write32, if_pos hadmits, Option.getD_some]

/-- A write that it does not admit is dropped. -/
theorem write32OrDrop_of_not_admits {w : Window} {offset : Nat} (hadmits : ¬w.Admits offset 4)
    (m : Memory) (value : UInt32) : w.write32OrDrop m offset value = m := by
  rw [write32OrDrop, write32, if_neg hadmits, Option.getD_none]

/-- A word write leaves every byte alone but those of the word, and those too if it is dropped. -/
theorem byte_write32OrDrop {w : Window} {offset : Nat} {c : Cell} (m : Memory) (value : UInt32)
    (hout : w.Admits offset 4 → ¬c.Within (w.cell offset) 4) :
    (w.write32OrDrop m offset value).byte c = m.byte c := by
  by_cases hadmits : w.Admits offset 4
  · rw [write32OrDrop_of_admits hadmits]
    exact Memory.byte_storeDword_of_not_within m value (hout hadmits)
  · rw [write32OrDrop_of_not_admits hadmits]

/-- What a write leaves at a byte depends on no other byte. -/
theorem byte_write32OrDrop_congr (w : Window) {m m' : Memory} {c : Cell} (offset : Nat)
    (value : UInt32) (hbyte : m'.byte c = m.byte c) :
    (w.write32OrDrop m' offset value).byte c = (w.write32OrDrop m offset value).byte c := by
  by_cases hadmits : w.Admits offset 4
  · rw [write32OrDrop_of_admits hadmits, write32OrDrop_of_admits hadmits]
    exact Memory.byte_store_congr _ hbyte
  · rw [write32OrDrop_of_not_admits hadmits, write32OrDrop_of_not_admits hadmits, hbyte]

/-- A write to one window leaves a disjoint one alone. -/
theorem sameBytes_write32OrDrop {w v : Window} (hdisjoint : w.Disjoint v) (m : Memory)
    (offset : Nat) (value : UInt32) : v.SameBytes m (w.write32OrDrop m offset value) := by
  intro c hc
  apply byte_write32OrDrop
  intro hadmits hin
  exact hdisjoint c (owns_of_within hadmits.2 hin) hc

/-- A dword that was written is read back. -/
theorem read32_write32OrDrop {w : Window} {offset : Nat} (hadmits : w.Admits offset 4)
    (m : Memory) (value : UInt32) :
    w.read32 (w.write32OrDrop m offset value) offset = some value := by
  rw [read32, if_pos hadmits, write32OrDrop_of_admits hadmits, Memory.loadDword_storeDword]

/-- Words of one window that do not overlap are independent. -/
theorem read32_write32OrDrop_of_apart {w : Window} {offset other : Nat}
    (hapart : offset + 4 ≤ other ∨ other + 4 ≤ offset) (m : Memory) (value : UInt32) :
    w.read32 (w.write32OrDrop m offset value) other = w.read32 m other := by
  unfold read32
  split
  case isTrue =>
    refine congrArg some (Memory.loadDword_congr fun i hi => byte_write32OrDrop m value fun _ => ?_)
    rw [cell, cell, Cell.advance_advance, Cell.within_advance_iff]
    omega
  case isFalse => rfl

/-- A write leaves the qwords that it does not overlap. -/
theorem read64_write32OrDrop_of_apart {w : Window} {offset other : Nat}
    (hapart : offset + 4 ≤ other ∨ other + 8 ≤ offset) (m : Memory) (value : UInt32) :
    w.read64 (w.write32OrDrop m offset value) other = w.read64 m other := by
  unfold read64
  split
  case isTrue =>
    refine congrArg some (Memory.loadQword_congr fun i hi => byte_write32OrDrop m value fun _ => ?_)
    rw [cell, cell, Cell.advance_advance, Cell.within_advance_iff]
    omega
  case isFalse => rfl

/-- An aligned word is refused only where it is not inside. -/
theorem takes_write32OrDrop {w : Window} {offset : Nat} (haligned : offset % 4 = 0) (m : Memory)
    (value : UInt32) : w.Takes offset value m (w.write32OrDrop m offset value) := by
  unfold Takes
  split
  case isTrue hinside =>
    have hadmits : w.Admits offset 4 := ⟨haligned, hinside⟩
    constructor
    · rw [write32OrDrop_of_admits hadmits, Memory.loadDword_storeDword]
    · intro i _ hapart
      apply byte_write32OrDrop
      rw [cell, cell, Cell.within_advance_iff]
      omega
  case isFalse houtside =>
    rw [write32OrDrop_of_not_admits fun hadmits => houtside hadmits.2]
    exact .refl w m

/-- What happens elsewhere before and after does not matter to the window. -/
theorem Takes.of_sameBytes {w : Window} {offset : Nat} {value : UInt32} {m₀ m m' m₁ : Memory}
    (htakes : w.Takes offset value m m') (hbefore : w.SameBytes m₀ m) (hafter : w.SameBytes m' m₁) :
    w.Takes offset value m₀ m₁ := by
  unfold Takes at htakes ⊢
  split
  case isTrue hinside =>
    rw [if_pos hinside] at htakes
    obtain ⟨hword, hframe⟩ := htakes
    constructor
    · rw [← hword]
      refine Memory.loadDword_congr fun i hi => hafter _ ?_
      exact owns_of_within hinside (Cell.within_iff.2 ⟨i, hi, rfl⟩)
    · intro i hi hapart
      have howns : w.Owns (w.cell i) := owns_cell_iff.2 hi
      rw [hafter _ howns, hframe i hi hapart, hbefore _ howns]
  case isFalse houtside =>
    rw [if_neg houtside] at htakes
    exact (hbefore.trans htakes).trans hafter

end Window

namespace RegisterBlock

/-- A register is written as its window is. -/
theorem write32_eq (r : RegisterBlock) (m : Memory) (offset : Nat) (value : UInt32) :
    r.write32 m offset value = r.window.write32OrDrop m offset value := rfl

/-- A register inside the window reads as what is there. -/
theorem window_read32_of_admits {r : RegisterBlock} {offset : Nat}
    (hadmits : r.window.Admits offset 4) (m : Memory) :
    r.window.read32 m offset = some (r.read32 m offset) := by
  rw [read32, Window.read32, if_pos hadmits, Option.getD_some]

/-- A qword that the window admits is read from the window. -/
theorem window_read64_of_admits {r : RegisterBlock} {offset : Nat}
    (hadmits : r.window.Admits offset 8) (m : Memory) :
    r.window.read64 m offset = some (r.read64 m offset) := by
  rw [read64, Window.read64, if_pos hadmits, Option.getD_some]

/-- A register that the window does not admit reads as all ones. -/
theorem read32_of_not_admits {r : RegisterBlock} {offset : Nat}
    (hadmits : ¬r.window.Admits offset 4) (m : Memory) : r.read32 m offset = sentinel := by
  rw [read32, Window.read32, if_neg hadmits, Option.getD_none]

/-- So does a wide one. -/
theorem read64_of_not_admits {r : RegisterBlock} {offset : Nat}
    (hadmits : ¬r.window.Admits offset 8) (m : Memory) :
    r.read64 m offset = 0xFFFFFFFFFFFFFFFF := by
  rw [read64, Window.read64, if_neg hadmits, Option.getD_none]

/-- A register depends on the bytes of its window only. -/
theorem read32_congr {r : RegisterBlock} {m m' : Memory} (hsame : r.window.SameBytes m m')
    (offset : Nat) : r.read32 m' offset = r.read32 m offset := by
  rw [read32, read32, Window.read32_congr hsame]

theorem read64_congr {r : RegisterBlock} {m m' : Memory} (hsame : r.window.SameBytes m m')
    (offset : Nat) : r.read64 m' offset = r.read64 m offset := by
  rw [read64, read64, Window.read64_congr hsame]

/-- A register keeps the value that was written to it. -/
theorem read32_write32 {r : RegisterBlock} {offset : Nat} (hadmits : r.window.Admits offset 4)
    (m : Memory) (value : UInt32) : r.read32 (r.write32 m offset value) offset = value := by
  rw [read32, write32_eq, Window.read32_write32OrDrop hadmits, Option.getD_some]

/-- The other registers keep theirs. -/
theorem read32_write32_of_apart {r : RegisterBlock} {offset other : Nat}
    (hapart : offset + 4 ≤ other ∨ other + 4 ≤ offset) (m : Memory) (value : UInt32) :
    r.read32 (r.write32 m offset value) other = r.read32 m other := by
  rw [read32, read32, write32_eq, Window.read32_write32OrDrop_of_apart hapart]

theorem read64_write32_of_apart {r : RegisterBlock} {offset other : Nat}
    (hapart : offset + 4 ≤ other ∨ other + 8 ≤ offset) (m : Memory) (value : UInt32) :
    r.read64 (r.write32 m offset value) other = r.read64 m other := by
  rw [read64, read64, write32_eq, Window.read64_write32OrDrop_of_apart hapart]

end RegisterBlock

end GpuControl
