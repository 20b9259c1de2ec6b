import GpuControl.Text.Numeral
import Mathlib.Data.List.Induction

namespace GpuControl.Text

/-- `c` is the digit `d`; letters count in either case. -/
def IsDigit (radix : Nat) (c : Char) (d : Nat) : Prop :=
  d < radix ∧ (c = d.digitChar ∨ c = d.digitChar.toUpper)

/-- The text is one or more digits that write the number, the most significant first. -/
inductive Numeral (radix : Nat) : List Char → Nat → Prop where
  | digit {c : Char} {d : Nat} (h : IsDigit radix c d) : Numeral radix [c] d
  | append {cs : List Char} {n : Nat} {c : Char} {d : Nat} (hcs : Numeral radix cs n)
      (h : IsDigit radix c d) : Numeral radix (cs ++ [c]) (n * radix + d)

variable {radix largest n d : Nat} {c : Char} {cs : List Char}

/-- Every digit is read for its value, in both cases. -/
theorem digitValue?_digitChar : ∀ radix ≤ 16, ∀ d < radix,
    digitValue? radix d.digitChar = some d ∧ digitValue? radix d.digitChar.toUpper = some d := by
  decide +kernel

theorem toNat_digitChar_of_ten_le : ∀ d < 16, 10 ≤ d →
    d.digitChar.toNat = d + 87 ∧ d.digitChar.toUpper.toNat = d + 55 := by
  decide +kernel

/-- The characters that are read as a digit are the digits of the radix. -/
theorem digitValue?_eq_some_iff (hradix : radix ≤ 16) :
    digitValue? radix c = some d ↔ IsDigit radix c d := by
  constructor
  · intro hvalue
    rw [digitValue?, Option.filter_eq_some_iff, decide_eq_true_eq] at hvalue
    obtain ⟨hvalue, hd⟩ := hvalue
    refine ⟨hd, ?_⟩
    split at hvalue
    case isTrue hdigit =>
      rw [Char.isDigit, Bool.and_eq_true, decide_eq_true_eq, decide_eq_true_eq] at hdigit
      have hrange : 48 ≤ c.toNat ∧ c.toNat ≤ 57 := hdigit
      have hten : d = c.toNat - 48 := (Option.some.inj hvalue).symm
      refine .inl (Char.toNat_inj.1 ?_)
      rw [Nat.toNat_digitChar_of_lt_ten (by omega)]
      omega
    case isFalse =>
    split at hvalue
    case isTrue hlower =>
      have hrange : 97 ≤ c.toNat ∧ c.toNat ≤ 122 := hlower
      have hten : d = c.toNat - 97 + 10 := (Option.some.inj hvalue).symm
      refine .inl (Char.toNat_inj.1 ?_)
      rw [(toNat_digitChar_of_ten_le d (by omega) (by omega)).1]
      omega
    case isFalse =>
    split at hvalue
    case isTrue hupper =>
      have hrange : 65 ≤ c.toNat ∧ c.toNat ≤ 90 := hupper
      have hten : d = c.toNat - 65 + 10 := (Option.some.inj hvalue).symm
      refine .inr (Char.toNat_inj.1 ?_)
      rw [(toNat_digitChar_of_ten_le d (by omega) (by omega)).2]
      omega
    case isFalse => cases hvalue
  · rintro ⟨hd, rfl | rfl⟩
    · exact (digitValue?_digitChar radix hradix d hd).1
    · exact (digitValue?_digitChar radix hradix d hd).2

/-- Reading one digit further. -/
theorem readDigits_append (overflow : NumeralError) (start : Nat) (cs : List Char) (c : Char) :
    readDigits radix largest overflow start (cs ++ [c]) =
      (readDigits radix largest overflow start cs).bind fun value =>
        readDigits radix largest overflow value [c] := by
  induction cs generalizing start with
  | nil => rfl
  | cons first rest ih =>
    rw [List.cons_append, readDigits, readDigits]
    cases digitValue? radix first with
    | none => rfl
    | some digit =>
      by_cases hle : start * radix + digit ≤ largest
      · simp only [if_pos hle, ih]
      · simp only [if_neg hle]
        rfl

/-- The last character is read as the lowest digit of a number that is not too large. -/
theorem readDigits_append_eq_ok_iff (hradix : radix ≤ 16) {overflow : NumeralError}
    {start : Nat} :
    readDigits radix largest overflow start (cs ++ [c]) = .ok n ↔
      ∃ m, readDigits radix largest overflow start cs = .ok m ∧
        ∃ d, IsDigit radix c d ∧ m * radix + d = n ∧ n ≤ largest := by
  rw [readDigits_append]
  simp only [← digitValue?_eq_some_iff hradix]
  cases readDigits radix largest overflow start cs with
  | error e => simp [Except.bind]
  | ok m =>
    simp only [Except.bind, readDigits, Except.ok.injEq, exists_eq_left']
    cases digitValue? radix c with
    | none => simp
    | some digit =>
      simp only [Option.some.injEq, exists_eq_left']
      split
      case isTrue hle => exact ⟨fun heq => ⟨Except.ok.inj heq, Except.ok.inj heq ▸ hle⟩,
        fun hn => congrArg _ hn.1⟩
      case isFalse hgt =>
        refine ⟨nofun, ?_⟩
        rintro ⟨rfl, hle⟩
        exact absurd hle hgt

/-- A numeral is a digit, or a numeral with a digit behind it. -/
theorem numeral_append_iff :
    Numeral radix (cs ++ [c]) n ↔
      ∃ d, IsDigit radix c d ∧
        (cs = [] ∧ d = n ∨ ∃ m, Numeral radix cs m ∧ m * radix + d = n) := by
  constructor
  · intro hnumeral
    generalize htext : cs ++ [c] = text at hnumeral
    cases hnumeral with
    | @digit last _ h =>
      have hlast : cs ++ [c] = [] ++ [last] := htext
      obtain ⟨rfl, hc⟩ := List.append_inj' hlast rfl
      cases hc
      exact ⟨_, h, .inl ⟨rfl, rfl⟩⟩
    | append hcs h =>
      obtain ⟨rfl, hc⟩ := List.append_inj' htext rfl
      cases hc
      exact ⟨_, h, .inr ⟨_, hcs, rfl⟩⟩
  · rintro ⟨d, hd, ⟨rfl, rfl⟩ | ⟨m, hm, rfl⟩⟩
    · exact .digit hd
    · exact .append hm hd

theorem Numeral.ne_nil (hcs : Numeral radix cs n) : cs ≠ [] := by
  cases hcs with
  | digit => exact List.cons_ne_nil _ _
  | append => exact List.append_ne_nil_of_right_ne_nil _ (List.cons_ne_nil _ _)

/-- The digits are read if and only if the whole number is in range: what the digits in front of one
write is never more than what they write together with it. -/
theorem readDigits_eq_ok_iff (hradix : radix ≤ 16) {overflow : NumeralError} (hcs : cs ≠ []) :
    readDigits radix largest overflow 0 cs = .ok n ↔ Numeral radix cs n ∧ n ≤ largest := by
  induction cs using List.reverseRecOn generalizing n with
  | nil => exact absurd rfl hcs
  | append_singleton cs c ih =>
    rw [readDigits_append_eq_ok_iff hradix, numeral_append_iff]
    by_cases hempty : cs = []
    · subst hempty
      constructor
      · rintro ⟨m, hm, d, hd, hn, hle⟩
        cases hm
        rw [Nat.zero_mul, Nat.zero_add] at hn
        exact ⟨⟨d, hd, .inl ⟨rfl, hn⟩⟩, hle⟩
      · rintro ⟨⟨d, hd, ⟨-, rfl⟩ | ⟨m, hm, -⟩⟩, hle⟩
        · exact ⟨0, rfl, d, hd, by omega, hle⟩
        · exact absurd rfl hm.ne_nil
    · constructor
      · rintro ⟨m, hm, d, hd, hn, hle⟩
        exact ⟨⟨d, hd, .inr ⟨m, ((ih hempty).1 hm).1, hn⟩⟩, hle⟩
      · rintro ⟨⟨d, hd, ⟨hnil, -⟩ | ⟨m, hm, rfl⟩⟩, hle⟩
        · exact absurd hnil hempty
        · have hpositive : 0 < radix := Nat.zero_lt_of_lt hd.1
          have hgrows : m ≤ m * radix := Nat.le_mul_of_pos_right m hpositive
          exact ⟨m, (ih hempty).2 ⟨hm, by omega⟩, d, hd, rfl, hle⟩

theorem IsDigit.ne_of_digitValue? (hradix : radix ≤ 16) {other : Char}
    (hother : digitValue? radix other = none) (h : IsDigit radix c d) : c ≠ other := by
  rintro rfl
  rw [← digitValue?_eq_some_iff hradix, hother] at h
  cases h

/-- Every character of a numeral is a digit. -/
theorem Numeral.isDigit_of_mem (hcs : Numeral radix cs n) (hc : c ∈ cs) :
    ∃ d, IsDigit radix c d := by
  induction hcs with
  | digit h => exact ⟨_, List.mem_singleton.1 hc ▸ h⟩
  | append _ h ih =>
    rcases List.mem_append.1 hc with hc | hc
    · exact ih hc
    · exact ⟨_, List.mem_singleton.1 hc ▸ h⟩

/-- What is no digit does not stand in a numeral. -/
theorem Numeral.not_mem (hradix : radix ≤ 16) (hcs : Numeral radix cs n)
    (hc : digitValue? radix c = none) : c ∉ cs := by
  intro hmem
  obtain ⟨d, hd⟩ := hcs.isDigit_of_mem hmem
  exact hd.ne_of_digitValue? hradix hc rfl

/-- A number is read from a numeral in range, with a plus sign or without, and from nothing else. -/
theorem readNat_eq_ok_iff (hradix : radix ≤ 16) :
    readNat radix largest cs = .ok n ↔
      ∃ digits, (cs = digits ∨ cs = '+' :: digits) ∧ Numeral radix digits n ∧ n ≤ largest := by
  have hplus {rest : List Char} (h : Numeral radix ('+' :: rest) n) : False :=
    h.not_mem hradix rfl List.mem_cons_self
  unfold readNat
  split
  next =>
    refine ⟨nofun, ?_⟩
    rintro ⟨_, rfl | heq, hnumeral, -⟩
    · exact absurd rfl hnumeral.ne_nil
    · cases heq
  next =>
    refine ⟨nofun, ?_⟩
    rintro ⟨_, rfl | heq, hnumeral, -⟩
    · exact (hplus hnumeral).elim
    · cases heq
      exact absurd rfl hnumeral.ne_nil
  next rest hrest =>
    rw [readDigits_eq_ok_iff hradix hrest]
    constructor
    · intro hnumeral
      exact ⟨rest, .inr rfl, hnumeral⟩
    · rintro ⟨_, rfl | heq, hnumeral⟩
      · exact (hplus hnumeral.1).elim
      · cases heq
        exact hnumeral
  next hempty _ hsigned =>
    rw [readDigits_eq_ok_iff hradix hempty]
    constructor
    · intro hnumeral
      exact ⟨cs, .inl rfl, hnumeral⟩
    · rintro ⟨_, rfl | heq, hnumeral⟩
      · exact hnumeral
      · exact absurd heq (hsigned _)

/-- Digits as they are printed. -/
theorem numeral_toDigits (hlow : 2 ≤ radix) (n : Nat) : Numeral radix (Nat.toDigits radix n) n := by
  induction n using Nat.strongRecOn with
  | ind n ih =>
    rw [Nat.toDigits_eq_if hlow]
    split
    case isTrue hlt => exact .digit ⟨hlt, .inl rfl⟩
    case isFalse hge =>
      have hfront := ih (n / radix) (Nat.div_lt_self (by omega) hlow)
      have hdigit : IsDigit radix (n % radix).digitChar (n % radix) :=
        ⟨Nat.mod_lt n (by omega), .inl rfl⟩
      have hwhole := hfront.append hdigit
      rwa [Nat.div_add_mod'] at hwhole

/-- Zeros in front change nothing. -/
theorem Numeral.zero_cons (hcs : Numeral radix cs n) : Numeral radix ('0' :: cs) n := by
  induction hcs with
  | digit h =>
    have hzero : IsDigit radix '0' 0 := ⟨Nat.zero_lt_of_lt h.1, .inl rfl⟩
    have hboth := (Numeral.digit hzero).append h
    rwa [Nat.zero_mul, Nat.zero_add] at hboth
  | append _ h ih => exact ih.append h

/-- Zeros in front do not change what a numeral says. -/
theorem Numeral.zeros_append (hcs : Numeral radix cs n) (zeros : Nat) :
    Numeral radix (List.replicate zeros '0' ++ cs) n := by
  induction zeros with
  | zero => exact hcs
  | succ zeros ih => exact ih.zero_cons

theorem IsDigit.toDigits_ten (h : IsDigit 10 c d) : Nat.toDigits 10 d = [c] := by
  have hcaseless : ∀ d < 10, d.digitChar.toUpper = d.digitChar := by decide
  rw [Nat.toDigits_of_lt_base h.1]
  rcases h with ⟨hd, rfl | rfl⟩
  · rfl
  · rw [hcaseless d hd]

/-- In decimal the numerals of a number are its printed digits behind any number of zeros. -/
theorem numeral_ten_iff :
    Numeral 10 cs n ↔ ∃ zeros, cs = List.replicate zeros '0' ++ Nat.toDigits 10 n := by
  constructor
  · intro hcs
    induction hcs with
    | digit h => exact ⟨0, h.toDigits_ten.symm⟩
    | @append _ m _ _ _ h ih =>
      obtain ⟨zeros, rfl⟩ := ih
      rw [← h.toDigits_ten, List.append_assoc]
      rcases Nat.eq_zero_or_pos m with rfl | hpositive
      · refine ⟨zeros + 1, ?_⟩
        rw [Nat.toDigits_zero, Nat.zero_mul, Nat.zero_add, List.replicate_succ', List.append_assoc]
      · refine ⟨zeros, ?_⟩
        rw [Nat.toDigits_append_toDigits (by decide) hpositive h.1, Nat.mul_comm]
  · rintro ⟨zeros, rfl⟩
    exact (numeral_toDigits (by decide) n).zeros_append zeros

end GpuControl.Text
