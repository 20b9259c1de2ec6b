import GpuControl.Launch.Resources
import Mathlib.Data.List.Pairwise
import Mathlib.Data.Nat.ModEq

namespace GpuControl

/-- The bits of a word from `low` on, `width` of them. -/
structure BitRange where
  low : Nat
  width : Nat

namespace BitRange

def Covers (bits : BitRange) (i : Nat) : Prop := bits.low ≤ i ∧ i < bits.low + bits.width

instance (bits : BitRange) (i : Nat) : Decidable (bits.Covers i) :=
  inferInstanceAs (Decidable (_ ∧ _))

/-- The number that stands in the range. -/
def extract (bits : BitRange) (word : UInt32) : Nat := word.toNat / 2 ^ bits.low % 2 ^ bits.width

/-- One range ends before the other begins. -/
def Apart (a b : BitRange) : Prop := a.low + a.width ≤ b.low ∨ b.low + b.width ≤ a.low

instance (a b : BitRange) : Decidable (a.Apart b) := inferInstanceAs (Decidable (_ ∨ _))

/-- Cutting a range out of a word moves its bits down to bit 0. -/
theorem testBit_extract (bits : BitRange) (word : UInt32) (i : Nat) :
    (bits.extract word).testBit i =
      (decide (i < bits.width) && word.toNat.testBit (bits.low + i)) := by
  rw [extract, Nat.testBit_mod_two_pow, Nat.testBit_div_two_pow, Nat.add_comm]

end BitRange

/-- The two words that carry a program's resources. -/
inductive ResourceWord where
  | first
  | second
deriving DecidableEq, Repr

/-- The fields of the resource words. -/
inductive ResourceField where
  | vgprBlocks
  | sgprBlocks
  | priority
  | floatMode
  | mode
  | wgpMode
  | scratch
  | userSgprs
  | tgidX
  | tgidY
  | tgidZ
  | ldsBlocks
deriving DecidableEq, Repr

namespace ResourceField

def word : ResourceField → ResourceWord
  | vgprBlocks | sgprBlocks | priority | floatMode | mode | wgpMode => .first
  | scratch | userSgprs | tgidX | tgidY | tgidZ | ldsBlocks => .second

/-- Where the field stands in its word. -/
def bits : ResourceField → BitRange
  | vgprBlocks => ⟨0, 6⟩
  | sgprBlocks => ⟨6, 4⟩
  | priority => ⟨10, 2⟩
  | floatMode => ⟨12, 8⟩
  | mode => ⟨20, 8⟩
  | wgpMode => ⟨29, 1⟩
  | scratch => ⟨0, 1⟩
  | userSgprs => ⟨1, 5⟩
  | tgidX => ⟨10, 1⟩
  | tgidY => ⟨11, 1⟩
  | tgidZ => ⟨12, 1⟩
  | ldsBlocks => ⟨15, 9⟩

/-- What the descriptor asks for in the field; a flag that is set is a one. -/
def value (r : ResourceDescriptor) : ResourceField → Nat
  | vgprBlocks => r.vgprBlocks.toNat
  | sgprBlocks => r.sgprBlocks.toNat
  | priority => r.priority.toNat
  | floatMode => r.floatMode.toNat
  | mode => r.mode.toNat
  | wgpMode => r.wgpMode.toNat
  | scratch => r.scratch.toNat
  | userSgprs => r.userSgprs.toNat
  | tgidX => r.tgidX.toNat
  | tgidY => r.tgidY.toNat
  | tgidZ => r.tgidZ.toNat
  | ldsBlocks => r.ldsBlocks.toNat

end ResourceField

/-- The fields of a word, in the order in which they are put into it. -/
def ResourceWord.fields : ResourceWord → List ResourceField
  | first => [.vgprBlocks, .sgprBlocks, .priority, .floatMode, .mode, .wgpMode]
  | second => [.userSgprs, .ldsBlocks, .scratch, .tgidX, .tgidY, .tgidZ]

theorem ResourceWord.mem_fields_iff {w : ResourceWord} {f : ResourceField} :
    f ∈ w.fields ↔ f.word = w := by
  cases w <;> cases f <;> decide

/-- No two fields of a word share a bit. -/
theorem ResourceWord.fields_apart (w : ResourceWord) :
    w.fields.Pairwise fun f g => f.bits.Apart g.bits := by
  cases w <;> decide

theorem ResourceField.bits_fit (f : ResourceField) :
    f.bits.low < 32 ∧ f.bits.low + f.bits.width ≤ 32 := by
  cases f <;> decide

/-- A bit is covered by at most one field of its word. -/
theorem ResourceWord.eq_of_covers {w : ResourceWord} {f g : ResourceField} {i : Nat}
    (hf : f ∈ w.fields) (hg : g ∈ w.fields) (hfi : f.bits.Covers i) (hgi : g.bits.Covers i) :
    f = g := by
  by_contra hne
  have : Std.Symm fun f g : ResourceField => f.bits.Apart g.bits := ⟨fun _ _ => Or.symm⟩
  have happart := w.fields_apart.forall hf hg hne
  obtain ⟨hflow, hftop⟩ := hfi
  obtain ⟨hglow, hgtop⟩ := hgi
  rcases happart with hbelow | habove <;> omega

namespace ResourceDescriptor

variable {r s : ResourceDescriptor} {f : ResourceField}

def word (r : ResourceDescriptor) : ResourceWord → UInt32
  | .first => r.rsrc1
  | .second => r.rsrc2

/-- A masked and shifted value covers the bits of its field and leaves the others clear. -/
theorem testBit_field (f : ResourceField) {value mask shift : UInt32}
    (hmask : mask.toNat = 2 ^ f.bits.width - 1) (hshift : shift.toNat = f.bits.low) (i : Nat) :
    (field value mask shift).toNat.testBit i =
      (decide (f.bits.Covers i) && value.toNat.testBit (i - f.bits.low)) := by
  obtain ⟨hlow, hfit⟩ := f.bits_fit
  rw [field, UInt32.toNat_shiftLeft, Nat.testBit_mod_two_pow, Nat.testBit_shiftLeft,
    UInt32.toNat_and, Nat.testBit_and, hmask, Nat.testBit_two_pow_sub_one, hshift,
    Nat.mod_eq_of_lt hlow, Bool.eq_iff_iff]
  simp only [Bool.and_eq_true, decide_eq_true_eq]
  constructor
  · rintro ⟨hi, hge, hbit, hlt⟩
    exact ⟨⟨hge, by omega⟩, hbit⟩
  · rintro ⟨⟨hge, hlt⟩, hbit⟩
    exact ⟨by omega, hge, hbit, by omega⟩

theorem flag_eq_field (set : Bool) (bit : UInt32) : flag set bit = field set.toUInt32 1 bit := by
  cases set with
  | false => exact UInt32.zero_shiftLeft.symm
  | true => rfl

theorem toNat_toUInt32 (set : Bool) : set.toUInt32.toNat = set.toNat := by
  cases set <;> rfl

/-- A bit of a word is set exactly if the field that covers it has it. -/
theorem testBit_word (r : ResourceDescriptor) (w : ResourceWord) (i : Nat) :
    (r.word w).toNat.testBit i =
      w.fields.any fun f => decide (f.bits.Covers i) && (f.value r).testBit (i - f.bits.low) := by
  cases w with
  | first =>
    rw [word, rsrc1, flag_eq_field]
    simp only [UInt32.toNat_or, Nat.testBit_or, ResourceWord.fields, List.any_cons, List.any_nil,
      Bool.or_assoc, Bool.or_false]
    rw [testBit_field .vgprBlocks rfl rfl, testBit_field .sgprBlocks rfl rfl,
      testBit_field .priority rfl rfl, testBit_field .floatMode rfl rfl,
      testBit_field .mode rfl rfl, testBit_field .wgpMode rfl rfl]
    simp only [ResourceField.value, UInt8.toNat_toUInt32, toNat_toUInt32]
  | second =>
    rw [word, rsrc2, flag_eq_field, flag_eq_field, flag_eq_field, flag_eq_field]
    simp only [UInt32.toNat_or, Nat.testBit_or, ResourceWord.fields, List.any_cons, List.any_nil,
      Bool.or_assoc, Bool.or_false]
    rw [testBit_field .userSgprs rfl rfl, testBit_field .ldsBlocks rfl rfl,
      testBit_field .scratch rfl rfl, testBit_field .tgidX rfl rfl,
      testBit_field .tgidY rfl rfl, testBit_field .tgidZ rfl rfl]
    simp only [ResourceField.value, UInt8.toNat_toUInt32, UInt16.toNat_toUInt32, toNat_toUInt32]

/-- Whatever the other fields hold, each is read back as far as its width goes. -/
theorem extract_word (r : ResourceDescriptor) (f : ResourceField) :
    f.bits.extract (r.word f.word) = f.value r % 2 ^ f.bits.width := by
  have hf : f ∈ f.word.fields := ResourceWord.mem_fields_iff.2 rfl
  apply Nat.eq_of_testBit_eq
  intro i
  rw [BitRange.testBit_extract, Nat.testBit_mod_two_pow, testBit_word]
  -- inside the field no other field of the word has a say, since no two of them cover one bit
  by_cases hi : i < f.bits.width
  · have hcovers : f.bits.Covers (f.bits.low + i) := ⟨by omega, by omega⟩
    congr 1
    rw [Bool.eq_iff_iff, List.any_eq_true]
    constructor
    · rintro ⟨g, hg, hbit⟩
      simp only [Bool.and_eq_true, decide_eq_true_eq] at hbit
      cases ResourceWord.eq_of_covers hf hg hcovers hbit.1
      simpa using hbit.2
    · intro hbit
      exact ⟨f, hf, by simpa [hcovers] using hbit⟩
  · rw [decide_eq_false hi, Bool.false_and, Bool.false_and]

/-- Fields that agree as far as their widths go make the same words. -/
theorem word_eq_of_value_modEq
    (hvalue : ∀ f : ResourceField, f.value r ≡ f.value s [MOD 2 ^ f.bits.width])
    (w : ResourceWord) : r.word w = s.word w := by
  apply UInt32.toNat_inj.1
  apply Nat.eq_of_testBit_eq
  intro i
  rw [testBit_word, testBit_word]
  congr 1
  funext f
  by_cases hcovers : f.bits.Covers i
  · have hlt : i - f.bits.low < f.bits.width := by
      obtain ⟨hlow, htop⟩ := id hcovers
      omega
    have hbit : (f.value r % 2 ^ f.bits.width).testBit (i - f.bits.low) =
        (f.value s % 2 ^ f.bits.width).testBit (i - f.bits.low) := by rw [hvalue f]
    simp only [Nat.testBit_mod_two_pow, hlt, decide_true, Bool.true_and] at hbit
    rw [hbit]
  · rw [decide_eq_false hcovers, Bool.false_and, Bool.false_and]

/-- Each field is read back from its bits as far as its width goes, the bits that no field covers
are zero, and two descriptors share their words exactly if their fields agree as far as the widths
go. -/
theorem words_exact (r : ResourceDescriptor) :
    (∀ f : ResourceField, f.bits.extract (r.word f.word) = f.value r % 2 ^ f.bits.width) ∧
    (∀ w i, (∀ f : ResourceField, f.word = w → ¬f.bits.Covers i) →
      (r.word w).toNat.testBit i = false) ∧
    ∀ s : ResourceDescriptor, (r.rsrc1 = s.rsrc1 ∧ r.rsrc2 = s.rsrc2) ↔
      ∀ f : ResourceField, f.value r % 2 ^ f.bits.width = f.value s % 2 ^ f.bits.width := by
  refine ⟨extract_word r, ?_, ?_⟩
  · intro w i hfree
    rw [testBit_word, List.any_eq_false]
    intro f hf
    simp [hfree f (ResourceWord.mem_fields_iff.1 hf)]
  · intro s
    constructor
    · rintro ⟨hfirst, hsecond⟩ f
      have hword : r.word f.word = s.word f.word := by
        cases f.word
        · exact hfirst
        · exact hsecond
      rw [← extract_word, ← extract_word, hword]
    · intro hvalue
      exact ⟨word_eq_of_value_modEq hvalue .first, word_eq_of_value_modEq hvalue .second⟩

/-- A register count of 255 blocks gives the words of one of 63, and leaves the count of scalar
registers next to it as it is. -/
theorem words_exact_sample :
    ResourceField.sgprBlocks.bits.extract (rsrc1 { vgprBlocks := 0xFF }) = 8 ∧
      rsrc1 { vgprBlocks := 0xFF } = rsrc1 { vgprBlocks := 0x3F } := by
  obtain ⟨hextract, -, hsame⟩ := words_exact { vgprBlocks := 0xFF }
  refine ⟨hextract .sgprBlocks, ((hsame { vgprBlocks := 0x3F }).2 ?_).1⟩
  intro f
  cases f <;> decide

end ResourceDescriptor

end GpuControl
