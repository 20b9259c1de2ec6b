import GpuControl.Memory.LittleEndian
import Std.Data.HashMap

namespace GpuControl

/-- The place of one byte: a region of physical memory and an offset there. -/
structure Cell where
  region : Nat
  offset : Nat
deriving DecidableEq, Repr, Hashable, Inhabited

/-- The place `n` bytes further on. -/
def Cell.advance (c : Cell) (n : Nat) : Cell := ⟨c.region, c.offset + n⟩

/-- Physical memory by the bytes that were written; all others are zero. -/
structure Memory where
  written : Std.HashMap Cell UInt8 := {}

namespace Memory

def empty : Memory := {}

def byte (m : Memory) (c : Cell) : UInt8 := m.written.getD c 0

def setByte (m : Memory) (c : Cell) (b : UInt8) : Memory := ⟨m.written.insert c b⟩

@[simp] theorem byte_empty (c : Cell) : empty.byte c = 0 := by
  simp [empty, byte]

theorem byte_setByte (m : Memory) (c d : Cell) (b : UInt8) :
    (m.setByte c b).byte d = if c = d then b else m.byte d := by
  simp [byte, setByte, Std.HashMap.getD_insert]

/-- The `count` bytes from `c` on. -/
def load (m : Memory) (c : Cell) (count : Nat) : List UInt8 :=
  (List.range count).map fun i => m.byte (c.advance i)

/-- Puts bytes from `c` on. -/
def store (m : Memory) (c : Cell) : List UInt8 → Memory
  | [] => m
  | b :: bs => (m.setByte c b).store (c.advance 1) bs

@[simp] theorem length_load (m : Memory) (c : Cell) (count : Nat) :
    (m.load c count).length = count := by
  simp [load]

/-- A store changes the bytes it covers and no other. -/
theorem byte_store (m : Memory) (c d : Cell) (bytes : List UInt8) :
    (m.store c bytes).byte d =
      if d.region = c.region ∧ c.offset ≤ d.offset ∧ d.offset < c.offset + bytes.length then
        bytes.getD (d.offset - c.offset) 0
      else m.byte d := by
  induction bytes generalizing m c with
  | nil =>
    rw [store, if_neg]
    simp only [List.length_nil]
    omega
  | cons b bs ih =>
    rw [store, ih, byte_setByte]
    obtain ⟨r, o⟩ := c
    obtain ⟨r', o'⟩ := d
    simp only [Cell.advance, Cell.mk.injEq, List.length_cons]
    by_cases hr : r' = r
    · by_cases ho : o' = o
      · subst hr ho
        have hout : ¬(r' = r' ∧ o' + 1 ≤ o' ∧ o' < o' + 1 + bs.length) := by omega
        have hin : r' = r' ∧ o' ≤ o' ∧ o' < o' + (bs.length + 1) := by omega
        rw [if_neg hout, if_pos ⟨rfl, rfl⟩, if_pos hin, Nat.sub_self, List.getD_cons_zero]
      · rw [if_neg fun h : r = r' ∧ o = o' => ho h.2.symm]
        by_cases hlt : o + 1 ≤ o' ∧ o' < o + 1 + bs.length
        · have hsub : o' - o = (o' - (o + 1)) + 1 := by omega
          have hin : o ≤ o' ∧ o' < o + (bs.length + 1) := by omega
          rw [if_pos ⟨hr, hlt⟩, if_pos ⟨hr, hin⟩, hsub, List.getD_cons_succ]
        · have hout : ¬(o ≤ o' ∧ o' < o + (bs.length + 1)) := by omega
          rw [if_neg fun h => hlt h.2, if_neg fun h => hout h.2]
    · rw [if_neg fun h => hr h.1, if_neg fun h => hr h.1.symm, if_neg fun h => hr h.1]

def loadDword (m : Memory) (c : Cell) : UInt32 := LittleEndian.toDword (m.load c 4)

def loadQword (m : Memory) (c : Cell) : UInt64 := LittleEndian.toQword (m.load c 8)

def storeDword (m : Memory) (c : Cell) (w : UInt32) : Memory := m.store c (LittleEndian.dword w)

def storeQword (m : Memory) (c : Cell) (w : UInt64) : Memory := m.store c (LittleEndian.qword w)

end Memory

end GpuControl
