import GpuControl.CommandLine.Values
import GpuControl.Proofs.Text.Numeral
import GpuControl.Text.Hex

namespace GpuControl.CommandLine

open Text

variable {x c : Char} {cs text sign digits : List Char} {lower upper n : Nat}

/-- The mark `0x` a number of times in a row, with `x` as the letter. -/
def marks (x : Char) : Nat → List Char
  | 0 => []
  | count + 1 => '0' :: x :: marks x count

/-- A number below 2⁶⁴ in hexadecimal digits, an optional plus sign in front of it and marks in
front of that: `lower` of them with the small letter, then `upper` with the capital one. -/
def Marked (lower upper : Nat) (text : List Char) (n : Nat) : Prop :=
  ∃ sign digits, text = marks 'x' lower ++ (marks 'X' upper ++ (sign ++ digits)) ∧
    (sign = [] ∨ sign = ['+']) ∧ Numeral 16 digits n ∧ n < UInt64.size

/-- A hexadecimal number with the mark or without it. -/
def OffsetText (text : List Char) (n : Nat) : Prop :=
  ∃ lower upper, Marked lower upper text n ∧ lower + upper ≤ 1

theorem eq_of_mem_marks {count : Nat} (hc : c ∈ marks x count) : c = '0' ∨ c = x := by
  induction count with
  | zero => cases hc
  | succ count ih =>
    rcases List.mem_cons.1 hc with hzero | hc
    · exact .inl hzero
    · rcases List.mem_cons.1 hc with hletter | hc
      · exact .inr hletter
      · exact ih hc

theorem count_marks (hx : x ≠ '0') (count : Nat) : (marks x count).count x = count := by
  induction count with
  | zero => rfl
  | succ count ih => rw [marks, List.count_cons_of_ne hx.symm, List.count_cons_self, ih]

/-- Marks in front of a text make no difference to what is left of it. -/
theorem dropMarks_marks_append (x : Char) (count : Nat) (cs : List Char) :
    dropMarks x (marks x count ++ cs) = dropMarks x cs := by
  induction count with
  | zero => rfl
  | succ count ih => rw [marks, List.cons_append, List.cons_append, dropMarks, if_pos rfl, ih]

theorem dropMarks_of_not_mem (hx : x ∉ cs) : dropMarks x cs = cs := by
  unfold dropMarks
  split
  next c cs =>
    have hne : c ≠ x := fun heq => hx (heq ▸ List.mem_cons_of_mem _ List.mem_cons_self)
    exact if_neg hne
  next => rfl

/-- Every text is some marks and what is left of it. -/
theorem exists_marks (x : Char) (cs : List Char) :
    ∃ count, cs = marks x count ++ dropMarks x cs := by
  fun_induction dropMarks x cs with
  | case1 cs ih =>
    obtain ⟨count, hcs⟩ := ih
    exact ⟨count + 1, congrArg (fun rest => '0' :: x :: rest) hcs⟩
  | case2 c cs hne => exact ⟨0, rfl⟩
  | case3 cs hother => exact ⟨0, rfl⟩

/-- Reading the whole text is reading, in hexadecimal, what both kinds of marks leave. -/
theorem readOffset_eq_readNat :
    readOffset text = .ok n ↔
      readNat 16 (UInt64.size - 1) (dropMarks 'X' (dropMarks 'x' text)) = .ok n := by
  rw [readOffset]
  cases readNat 16 (UInt64.size - 1) (dropMarks 'X' (dropMarks 'x' text)) with
  | error e => exact ⟨nofun, nofun⟩
  | ok m => rw [Except.mapError, Except.ok.injEq, Except.ok.injEq]

/-- A character that is neither digit nor sign stands nowhere in a number. -/
theorem not_mem_number (hsign : sign = [] ∨ sign = ['+']) (hdigits : Numeral 16 digits n)
    (hc : digitValue? 16 c = none) (hplus : c ≠ '+') : c ∉ sign ++ digits := by
  rw [List.mem_append, not_or]
  refine ⟨?_, hdigits.not_mem (by decide) hc⟩
  rcases hsign with rfl | rfl
  · exact List.not_mem_nil
  · exact fun hmem => hplus (List.mem_singleton.1 hmem)

/-- No letter of a mark stands in the number, so the text tells how many marks it has. -/
theorem Marked.count_eq (hmarked : Marked lower upper text n) :
    text.count 'x' = lower ∧ text.count 'X' = upper := by
  obtain ⟨sign, digits, rfl, hsign, hdigits, -⟩ := hmarked
  have hnumber {letter : Char} (hletter : digitValue? 16 letter = none) (hplus : letter ≠ '+') :
      (sign ++ digits).count letter = 0 :=
    List.count_eq_zero.2 (not_mem_number hsign hdigits hletter hplus)
  have hother {letter other : Char} (hne : other ≠ '0' ∧ other ≠ letter) (count : Nat) :
      (marks letter count).count other = 0 :=
    List.count_eq_zero.2 fun hmem => (eq_of_mem_marks hmem).elim hne.1 hne.2
  constructor
  · rw [List.count_append, List.count_append, count_marks (by decide), hother (by decide),
      hnumber rfl (by decide), Nat.add_zero]
  · rw [List.count_append, List.count_append, hother (by decide), count_marks (by decide),
      hnumber rfl (by decide), Nat.add_zero, Nat.zero_add]

/-- What follows the marks starts with none, so all of them are dropped and nothing else. -/
theorem dropMarks_number (hsign : sign = [] ∨ sign = ['+']) (hdigits : Numeral 16 digits n)
    (lower upper : Nat) :
    dropMarks 'X' (dropMarks 'x' (marks 'x' lower ++ (marks 'X' upper ++ (sign ++ digits)))) =
      sign ++ digits := by
  have hsmall : 'x' ∉ marks 'X' upper ++ (sign ++ digits) := by
    rw [List.mem_append, not_or]
    refine ⟨fun hmem => ?_, not_mem_number hsign hdigits rfl (by decide)⟩
    rcases eq_of_mem_marks hmem with heq | heq <;> exact absurd heq (by decide)
  rw [dropMarks_marks_append, dropMarks_of_not_mem hsmall, dropMarks_marks_append,
    dropMarks_of_not_mem (not_mem_number hsign hdigits rfl (by decide))]

/-- The texts that are read as offsets are the marked numbers. -/
theorem readOffset_eq_ok_iff :
    readOffset text = .ok n ↔ ∃ lower upper, Marked lower upper text n := by
  rw [readOffset_eq_readNat]
  constructor
  · intro hread
    obtain ⟨lower, hlower⟩ := exists_marks 'x' text
    obtain ⟨upper, hupper⟩ := exists_marks 'X' (dropMarks 'x' text)
    obtain ⟨digits, hdigits, hnumeral, hle⟩ := (readNat_eq_ok_iff (by decide)).1 hread
    have hlt : n < UInt64.size := Nat.lt_of_le_pred (by decide) hle
    rw [hupper] at hlower
    rcases hdigits with hdigits | hdigits <;> rw [hdigits] at hlower
    · exact ⟨lower, upper, [], digits, hlower, .inl rfl, hnumeral, hlt⟩
    · exact ⟨lower, upper, ['+'], digits, hlower, .inr rfl, hnumeral, hlt⟩
  · rintro ⟨lower, upper, sign, digits, rfl, hsign, hnumeral, hlt⟩
    rw [dropMarks_number hsign hnumeral, readNat_eq_ok_iff (by decide)]
    refine ⟨digits, ?_, hnumeral, Nat.le_pred_of_lt hlt⟩
    rcases hsign with rfl | rfl
    · exact .inl rfl
    · exact .inr rfl

/-- Every offset has a text, with the mark and without it. -/
theorem offsetText_hexDigits (offset : UInt64) :
    OffsetText (hexDigits offset.toNat) offset.toNat ∧
      OffsetText (hex offset.toNat).toList offset.toNat := by
  have hdigits : Numeral 16 (hexDigits offset.toNat) offset.toNat :=
    numeral_toDigits (by decide) offset.toNat
  have hmarked : (hex offset.toNat).toList = '0' :: 'x' :: hexDigits offset.toNat := by simp [hex]
  exact ⟨⟨0, 0, ⟨[], _, rfl, .inl rfl, hdigits, offset.toNat_lt⟩, by decide⟩,
    ⟨1, 0, ⟨[], _, hmarked, .inl rfl, hdigits, offset.toNat_lt⟩, by decide⟩⟩

/-- An offset is read from any number of marks with the small letter, then any number with the
capital one, an optional plus sign and hexadecimal digits of a number below 2⁶⁴, and from nothing
else. So a text is read as the hexadecimal number it is and refused if it is none, unless two or
more marks stand in front of a number; what is written in hexadecimal, with the mark in front or
without it, is read back. -/
theorem readOffset_exact (text : List Char) (n : Nat) (offset : UInt64) :
    (readOffset text = .ok n ↔ ∃ lower upper, Marked lower upper text n) ∧
    ((readOffset text = .ok n ↔ OffsetText text n) ↔
      ∀ lower upper, Marked lower upper text n → lower + upper ≤ 1) ∧
    readOffset (hexDigits offset.toNat) = .ok offset.toNat ∧
    readOffset (hex offset.toNat).toList = .ok offset.toNat := by
  have hread {cs : List Char} {m : Nat} (htext : OffsetText cs m) : readOffset cs = .ok m := by
    obtain ⟨lower, upper, hmarked, -⟩ := htext
    exact readOffset_eq_ok_iff.2 ⟨lower, upper, hmarked⟩
  refine ⟨readOffset_eq_ok_iff, ⟨fun hmeets lower upper hmarked => ?_, fun hfew => ⟨?_, hread⟩⟩,
    hread (offsetText_hexDigits offset).1, hread (offsetText_hexDigits offset).2⟩
  · have hok : readOffset text = .ok n := readOffset_eq_ok_iff.2 ⟨lower, upper, hmarked⟩
    obtain ⟨lower', upper', hmarked', hone⟩ := hmeets.1 hok
    rw [← hmarked.count_eq.1, ← hmarked.count_eq.2, hmarked'.count_eq.1, hmarked'.count_eq.2]
    exact hone
  · intro hok
    obtain ⟨lower, upper, hmarked⟩ := readOffset_eq_ok_iff.1 hok
    exact ⟨lower, upper, hmarked, hfew lower upper hmarked⟩

/-- A text with the mark twice is read, though it is no hexadecimal number. -/
theorem readOffset_marked_twice_sample :
    readOffset "0x0x8010".toList = .ok 0x8010 ∧ ¬∃ n, OffsetText "0x0x8010".toList n := by
  refine ⟨rfl, ?_⟩
  rintro ⟨n, lower, upper, hmarked, hone⟩
  have htwice : "0x0x8010".toList.count 'x' = 2 := by decide
  have hlower := hmarked.count_eq.1
  omega

end GpuControl.CommandLine
