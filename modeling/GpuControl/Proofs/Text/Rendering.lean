import GpuControl.Proofs.Text.Numeral
import GpuControl.Text.Blank
import Mathlib.Data.List.TakeWhile

namespace GpuControl

namespace Text

/-- The text is `core` with blanks on both sides. -/
def Padded (core text : List Char) : Prop :=
  ∃ before after, (∀ c ∈ before, isBlank c = true) ∧ (∀ c ∈ after, isBlank c = true) ∧
    text = before ++ (core ++ after)

/-- The text writes `n` in decimal digits: zeros and a plus sign may stand in front of them, blanks
around. -/
def Renders (text : List Char) (n : Nat) : Prop :=
  ∃ sign zeros, (sign = [] ∨ sign = ['+']) ∧
    Padded (sign ++ (List.replicate zeros '0' ++ Nat.toDigits 10 n)) text

variable {core text : List Char} {largest n : Nat}

/-- Trimming takes off nothing but blanks. -/
theorem padded_trim (text : List Char) : Padded (trim text) text := by
  let rest := text.dropWhile isBlank
  have hends : ∀ cs : List Char, ∀ c ∈ cs.takeWhile isBlank, isBlank c = true :=
    fun cs c hc => List.mem_takeWhile_imp hc
  refine ⟨text.takeWhile isBlank, (rest.reverse.takeWhile isBlank).reverse, hends text, ?_, ?_⟩
  · intro c hc
    exact hends _ c (List.mem_reverse.1 hc)
  · have hrest : rest = trim text ++ (rest.reverse.takeWhile isBlank).reverse := by
      rw [trim, ← List.reverse_append, List.takeWhile_append_dropWhile, List.reverse_reverse]
    rw [← hrest, List.takeWhile_append_dropWhile]

theorem dropWhile_isBlank_append {before after : List Char}
    (hbefore : ∀ c ∈ before, isBlank c = true) (hcore : ∀ c ∈ core, isBlank c = false)
    (hne : core ≠ []) :
    (before ++ (core ++ after)).dropWhile isBlank = core ++ after := by
  obtain ⟨c, cs, rfl⟩ := List.exists_cons_of_ne_nil hne
  have hc : ¬isBlank c = true := Bool.eq_false_iff.1 (hcore c List.mem_cons_self)
  rw [List.dropWhile_append_of_pos hbefore, List.cons_append, List.dropWhile_cons_of_neg hc]

/-- A text that has no blank in it is what trimming leaves of it with blanks around it. -/
theorem trim_eq_of_padded (hpadded : Padded core text) (hcore : ∀ c ∈ core, isBlank c = false)
    (hne : core ≠ []) : trim text = core := by
  obtain ⟨before, after, hbefore, hafter, rfl⟩ := hpadded
  have hback : (core ++ after).reverse = after.reverse ++ (core.reverse ++ []) := by simp
  rw [trim, dropWhile_isBlank_append hbefore hcore hne, hback,
    dropWhile_isBlank_append (fun c hc => hafter c (List.mem_reverse.1 hc))
      (fun c hc => hcore c (List.mem_reverse.1 hc)) (by simpa using hne),
    List.append_nil, List.reverse_reverse]

theorem Numeral.not_blank {digits : List Char} (hdigits : Numeral 10 digits n) :
    ∀ c ∈ digits, isBlank c = false := by
  have hvisible : ∀ d < 10, isBlank d.digitChar = false ∧ isBlank d.digitChar.toUpper = false := by
    decide
  intro c hc
  obtain ⟨d, hd, rfl | rfl⟩ := hdigits.isDigit_of_mem hc
  · exact (hvisible d hd).1
  · exact (hvisible d hd).2

/-- A number is read from its renderings, if it is in range, and from nothing else. -/
theorem readNat_trim_eq_ok_iff :
    readNat 10 largest (trim text) = .ok n ↔ Renders text n ∧ n ≤ largest := by
  rw [readNat_eq_ok_iff (by decide)]
  constructor
  · rintro ⟨digits, htrim, hdigits, hle⟩
    have hpadded := padded_trim text
    obtain ⟨zeros, rfl⟩ := numeral_ten_iff.1 hdigits
    refine ⟨?_, hle⟩
    rcases htrim with htrim | htrim <;> rw [htrim] at hpadded
    · exact ⟨[], zeros, .inl rfl, hpadded⟩
    · exact ⟨['+'], zeros, .inr rfl, hpadded⟩
  · rintro ⟨⟨sign, zeros, hsign, hpadded⟩, hle⟩
    have hdigits : Numeral 10 (List.replicate zeros '0' ++ Nat.toDigits 10 n) n :=
      numeral_ten_iff.2 ⟨zeros, rfl⟩
    refine ⟨_, ?_, hdigits, hle⟩
    rcases hsign with rfl | rfl
    · exact .inl (trim_eq_of_padded hpadded hdigits.not_blank hdigits.ne_nil)
    · refine .inr (trim_eq_of_padded hpadded ?_ (List.cons_ne_nil _ _))
      intro c hc
      rcases List.mem_cons.1 hc with rfl | hc
      · rfl
      · exact hdigits.not_blank c hc

/-- What is printed in decimal is a rendering. -/
theorem renders_repr (n : Nat) : Renders n.repr.toList n :=
  ⟨[], 0, .inl rfl, [], [], nofun, nofun, by simp⟩

/-- No blank is a capital letter. -/
theorem toLower_of_isBlank {c : Char} (hc : isBlank c = true) : c.toLower = c := by
  have hcapital : ¬(c.val ≥ 'A'.val ∧ c.val ≤ 'Z'.val) := by
    intro hrange
    have hnat : 65 ≤ c.toNat ∧ c.toNat ≤ 90 := hrange
    simp only [isBlank, Bool.or_eq_true, Bool.and_eq_true, decide_eq_true_eq, beq_iff_eq] at hc
    omega
  exact dif_neg hcapital

end Text

end GpuControl
