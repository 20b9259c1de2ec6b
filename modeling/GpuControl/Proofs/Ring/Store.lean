import GpuControl.Proofs.Ring.Space
import GpuControl.Proofs.Window.Frame
import GpuControl.Ring.Access

namespace GpuControl

/-- The part of the aperture that a ring occupies. -/
structure RingStore where
  aperture : Aperture
  /-- Device address of the first slot. -/
  base : Nat
  slots : Nat

namespace RingStore

/-- There is a slot, and all of them can be seen. -/
def Visible (b : RingStore) : Prop := 0 < b.slots ∧ b.aperture.Contains b.base (4 * b.slots)

/-- The place of the dword to which a pointer leads. -/
def slot (b : RingStore) (ptr : Nat) : Cell := b.aperture.window.cell (b.base + 4 * (ptr % b.slots))

/-- The `count` dwords from a pointer forward. -/
def words (b : RingStore) (m : Memory) (first count : Nat) : List UInt32 :=
  (List.range count).map fun i => m.loadDword (b.slot (first + i))

/-- The second memory holds `ws` from pointer `first` forward and is else the first memory. -/
structure Copied (b : RingStore) (first : Nat) (ws : List UInt32) (m m' : Memory) : Prop where
  lands : b.words m' first ws.length = ws
  frame : ∀ c, (∀ i < ws.length, ¬c.Within (b.slot (first + i)) 4) → m'.byte c = m.byte c

variable {b : RingStore} {m m' : Memory}

/-- Pointers that differ by whole turns lead to the same slot. -/
theorem slot_congr {ptr other : Nat} (hsame : ptr % b.slots = other % b.slots) :
    b.slot ptr = b.slot other := by
  rw [slot, slot, hsame]

/-- No byte lies in two slots. -/
theorem mod_eq_of_within_slots {c : Cell} {ptr other : Nat} (hptr : c.Within (b.slot ptr) 4)
    (hother : c.Within (b.slot other) 4) : ptr % b.slots = other % b.slots := by
  obtain ⟨-, hlo, hhi⟩ := hptr
  obtain ⟨-, hlo', hhi'⟩ := hother
  simp only [slot, Window.cell, Cell.advance] at hlo hhi hlo' hhi'
  omega

/-- The slots of a visible store lie in the aperture. -/
theorem owns_of_within_slot (hvisible : b.Visible) {c : Cell} {ptr : Nat}
    (hc : c.Within (b.slot ptr) 4) : b.aperture.window.Owns c := by
  obtain ⟨hslots, hfits⟩ := hvisible
  have hmod := Nat.mod_lt ptr hslots
  refine Window.owns_of_within ?_ hc
  simp only [Aperture.Contains, Window.Contains] at hfits ⊢
  omega

@[simp] theorem length_words (first count : Nat) : (b.words m first count).length = count := by
  simp only [words, List.length_map, List.length_range]

/-- The dwords of a stretch are those of its first part, then those of the rest. -/
theorem words_add (first count more : Nat) :
    b.words m first (count + more) = b.words m first count ++ b.words m (first + count) more := by
  simp only [words, List.range_add, List.map_append, List.map_map]
  congr 1
  apply List.map_congr_left
  intro i _
  simp only [Function.comp_apply, Nat.add_assoc]

theorem words_mod_congr {first other : Nat} (hsame : first % b.slots = other % b.slots)
    (count : Nat) : b.words m first count = b.words m other count := by
  apply List.map_congr_left
  intro i _
  have hstep : (first + i) % b.slots = (other + i) % b.slots :=
    Nat.ModEq.add_right i hsame
  rw [slot_congr hstep]

/-- Dwords whose bytes agree are the same. -/
theorem words_congr {first count : Nat}
    (hbytes : ∀ i < count, ∀ c, c.Within (b.slot (first + i)) 4 → m'.byte c = m.byte c) :
    b.words m' first count = b.words m first count := by
  apply List.map_congr_left
  intro i hi
  apply Memory.loadDword_congr
  intro j hj
  exact hbytes i (List.mem_range.1 hi) _ (Cell.within_iff.2 ⟨j, hj, rfl⟩)

theorem words_congr_of_sameBytes (hvisible : b.Visible)
    (hsame : b.aperture.window.SameBytes m m') (first count : Nat) :
    b.words m' first count = b.words m first count :=
  words_congr fun _ _ c hc => hsame c (owns_of_within_slot hvisible hc)

theorem Copied.of_mod_eq {ws : List UInt32} {first other : Nat}
    (hcopied : b.Copied first ws m m') (hsame : other % b.slots = first % b.slots) :
    b.Copied other ws m m' := by
  refine ⟨(words_mod_congr hsame _).trans hcopied.lands, fun c hout => hcopied.frame c ?_⟩
  intro i hi hin
  have hslot : b.slot (other + i) = b.slot (first + i) := slot_congr (Nat.ModEq.add_right i hsame)
  exact hout i hi (hslot ▸ hin)

/-- The words before those copied in stay, as long as the whole leaves a slot free. -/
theorem Copied.words_append {ws : List UInt32} {first count : Nat}
    (hcopied : b.Copied (first + count) ws m m') (hfits : count + ws.length < b.slots) :
    b.words m' first (count + ws.length) = b.words m first count ++ ws := by
  have hkept : b.words m' first count = b.words m first count := by
    apply words_congr
    intro i hi c hc
    apply hcopied.frame
    intro j hj hin
    have hmeet : first + i ≡ first + (count + j) [MOD b.slots] := by
      rw [← Nat.add_assoc]
      exact mod_eq_of_within_slots hc hin
    have heq := (Nat.ModEq.add_left_cancel' first hmeet).eq_of_lt_of_lt
      (show i < b.slots by omega) (show count + j < b.slots by omega)
    omega
  rw [words_add, hkept, hcopied.lands]

/-- A copy and then another right after it are a copy of all the words. -/
theorem Copied.append {m'' : Memory} {ws more : List UInt32} {first : Nat}
    (hcopied : b.Copied first ws m m') (hmore : b.Copied (first + ws.length) more m' m'')
    (hfits : ws.length + more.length < b.slots) : b.Copied first (ws ++ more) m m'' := by
  constructor
  · rw [List.length_append, hmore.words_append hfits, hcopied.lands]
  · intro c hout
    rw [List.length_append] at hout
    have hfirst : m'.byte c = m.byte c := hcopied.frame c fun i hi => hout i (by omega)
    rw [← hfirst]
    apply hmore.frame
    intro i hi
    rw [Nat.add_assoc]
    exact hout (ws.length + i) (by omega)

/-- Bytes outside the aperture are not touched by a copy into a visible ring. -/
theorem Copied.sameBytes {ws : List UInt32} {first : Nat} {w : Window}
    (hcopied : b.Copied first ws m m') (hvisible : b.Visible)
    (hdisjoint : b.aperture.window.Disjoint w) : w.SameBytes m m' := by
  intro c hc
  apply hcopied.frame
  intro i _ hin
  exact hdisjoint c (owns_of_within_slot hvisible hin) hc

end RingStore

namespace Aperture

/-- A write that fits in the aperture stores all its bytes. -/
theorem write_of_contains {a : Aperture} {m : Memory} {offset : Nat} {bytes : List UInt8}
    (hin : a.Contains offset bytes.length) :
    a.write m offset bytes = (bytes.length, m.store (a.window.cell offset) bytes) := by
  have hin : a.window.Contains offset bytes.length := hin
  rw [write, Window.writeBytes, if_pos hin]

/-- What fits before the end of the ring goes to the slots from `first` on, the rest to the first
slots of the ring. -/
theorem writeRing_eq {a : Aperture} {m : Memory} {base slots first : Nat} {words : List UInt32}
    (hvisible : a.Contains base (4 * slots)) (hfirst : first < slots)
    (hfits : words.length ≤ slots) :
    a.writeRing m base (4 * slots) (4 * first) words =
      (true, (m.store (a.window.cell (base + 4 * first))
        (LittleEndian.dwords (words.take (slots - first)))).store (a.window.cell base)
        (LittleEndian.dwords (words.drop (slots - first)))) := by
  have hroom : 4 * slots - 4 * first = 4 * (slots - first) := by omega
  have hin : base + 4 * slots ≤ a.window.len := hvisible
  have hhead : a.Contains (base + 4 * first)
      (LittleEndian.dwords (words.take (slots - first))).length := by
    simp only [Contains, Window.Contains, LittleEndian.length_dwords, List.length_take]
    omega
  have htail : a.Contains base (LittleEndian.dwords (words.drop (slots - first))).length := by
    simp only [Contains, Window.Contains, LittleEndian.length_dwords, List.length_drop]
    omega
  simp only [writeRing, hroom, LittleEndian.take_dwords, LittleEndian.drop_dwords,
    write_of_contains hhead, write_of_contains htail, ne_eq, not_true_eq_false, if_false]
  split
  case isTrue hempty =>
    rw [List.isEmpty_iff.1 hempty, Memory.store]
  case isFalse => rw [beq_self_eq_true]

end Aperture

namespace RingStore

variable {b : RingStore}

/-- A slot that is reached before the end of the ring. -/
theorem slot_add_of_lt {ptr i : Nat} (hbefore : ptr % b.slots + i < b.slots) :
    b.slot (ptr + i) = (b.aperture.window.cell (b.base + 4 * (ptr % b.slots))).advance (4 * i) := by
  have hmod : (ptr + i) % b.slots = ptr % b.slots + i := by
    rw [← Nat.mod_add_mod, Nat.mod_eq_of_lt hbefore]
  rw [slot, hmod, Window.cell, Window.cell, Cell.advance_advance, Nat.mul_add, Nat.add_assoc]

/-- A slot that is reached around the end of the ring. -/
theorem slot_add_of_le {ptr i : Nat} (haround : b.slots ≤ ptr % b.slots + i) (hi : i ≤ b.slots)
    (hslots : 0 < b.slots) :
    b.slot (ptr + i) =
      (b.aperture.window.cell b.base).advance (4 * (i - (b.slots - ptr % b.slots))) := by
  have hptr := Nat.mod_lt ptr hslots
  have hback : ptr % b.slots + i - b.slots = i - (b.slots - ptr % b.slots) := by omega
  have hlt : i - (b.slots - ptr % b.slots) < b.slots := by omega
  have hmod : (ptr + i) % b.slots = i - (b.slots - ptr % b.slots) := by
    rw [← Nat.mod_add_mod, Nat.mod_eq_sub_mod haround, hback, Nat.mod_eq_of_lt hlt]
  rw [slot, hmod, Window.cell, Window.cell, Cell.advance_advance]

/-- A copy into a visible ring succeeds if the words do not overtake themselves. -/
theorem writeRing_copied (hvisible : b.Visible) (m : Memory) (ptr : Nat) (ws : List UInt32)
    (hfits : ws.length ≤ b.slots) :
    ∃ m', b.aperture.writeRing m b.base (4 * b.slots) (4 * (ptr % b.slots)) ws = (true, m') ∧
      b.Copied ptr ws m m' := by
  obtain ⟨hslots, hin⟩ := hvisible
  have hptr := Nat.mod_lt ptr hslots
  refine ⟨_, Aperture.writeRing_eq hin hptr hfits, ?_, ?_⟩
  · apply List.ext_getElem
    · rw [length_words]
    · intro i _ hi
      simp only [words, List.getElem_map, List.getElem_range]
      by_cases hbefore : ptr % b.slots + i < b.slots
      · -- The tail, at the start of the ring, ends before the slot at which the head began.
        have hhead : i < (ws.take (b.slots - ptr % b.slots)).length := by
          rw [List.length_take]
          omega
        rw [slot_add_of_lt hbefore]
        refine (Memory.loadDword_congr fun j hj => Memory.byte_store_of_not_within _ ?_).trans ?_
        · simp only [Cell.Within, Window.cell, Cell.advance, LittleEndian.length_dwords,
            List.length_drop]
          omega
        · rw [Memory.loadDword_store_dwords _ _ _ hhead, List.getElem_take]
      · have htail : i - (b.slots - ptr % b.slots) <
            (ws.drop (b.slots - ptr % b.slots)).length := by
          rw [List.length_drop]
          omega
        have hindex : b.slots - ptr % b.slots + (i - (b.slots - ptr % b.slots)) = i := by omega
        rw [slot_add_of_le (by omega) (by omega) hslots, Memory.loadDword_store_dwords _ _ _ htail,
          List.getElem_drop]
        simp only [hindex]
  · intro c hout
    rw [Memory.byte_store_of_not_within, Memory.byte_store_of_not_within]
    · intro hin
      obtain ⟨j, hj, rfl⟩ := Cell.within_iff.1 hin
      rw [LittleEndian.length_dwords, List.length_take] at hj
      refine hout (j / 4) (by omega) ?_
      rw [slot_add_of_lt (by omega), Cell.within_advance_iff]
      omega
    · intro hin
      obtain ⟨j, hj, rfl⟩ := Cell.within_iff.1 hin
      rw [LittleEndian.length_dwords, List.length_drop] at hj
      refine hout (b.slots - ptr % b.slots + j / 4) (by omega) ?_
      rw [slot_add_of_le (by omega) (by omega) hslots, Cell.within_advance_iff]
      omega

end RingStore

end GpuControl
