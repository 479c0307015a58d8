import Mathlib.Data.List.Basic
import Mathlib.Data.List.TakeWhile
import TicketTrail.Decimal
import TicketTrail.Text.Blank

/-!
# Numerals

Numbers are written in decimal digits, perhaps with zeros in front. What is read from
the digits is the number, and where other text follows the digits, they end where that
text begins.

Main results:

* `isNumeral_toDigits` — a number is read back from its digits;
* `IsNumeral.takeWhile_append` — a numeral is told from the text after it;
* `not_leading_zero` — only 0 has digits that begin with 0.
-/

namespace TicketTrail

/-- The characters are decimal digits that spell the number. -/
structure IsNumeral (ds : List Char) (n : Nat) : Prop where
  isDigit : ∀ c ∈ ds, c.isDigit = true
  ne_nil : ds ≠ []
  value : natOfDigits ds = n

/-- The number that digits spell is the one of the standard library. -/
theorem natOfDigits_eq_ofDigitChars (ds : List Char) :
    natOfDigits ds = Nat.ofDigitChars 10 ds 0 := by
  have hStep : (fun (n : Nat) (c : Char) => n * 10 + (c.toNat - '0'.toNat)) =
      fun n c => 10 * n + (c.toNat - '0'.toNat) :=
    funext fun n => funext fun c => by rw [Nat.mul_comm]
  rw [natOfDigits, Nat.ofDigitChars, hStep]

/-- A number is read back from its digits. -/
theorem isNumeral_toDigits (n : Nat) : IsNumeral (Nat.toDigits 10 n) n where
  isDigit := fun _ hc => Nat.isDigit_of_mem_toDigits (by decide) (by decide) hc
  ne_nil := Nat.toDigits_ne_nil
  value := by
    rw [natOfDigits_eq_ofDigitChars]
    exact Nat.ofDigitChars_toDigits (by decide) (by decide)

/-- The digits of a positive number do not begin with 0. -/
theorem not_leading_zero {n : Nat} (hPos : 0 < n) : (Nat.toDigits 10 n).head? ≠ some '0' := by
  -- the last digit is cut off until one digit is left
  induction n using Nat.strongRecOn with
  | _ n ih =>
    by_cases hSmall : n < 10
    · have hDigit : ∀ m < 10, 0 < m → m.digitChar ≠ '0' := by decide
      rw [Nat.toDigits_of_lt_base hSmall]
      simpa using hDigit n hSmall hPos
    · -- the last digit of a longer number is not the first one
      have hCut := Nat.toDigits_append_toDigits (b := 10) (n := n / 10) (d := n % 10)
        (by decide) (by omega) (Nat.mod_lt n (by decide))
      rw [Nat.div_add_mod] at hCut
      rw [← hCut, List.head?_append_of_ne_nil _ Nat.toDigits_ne_nil]
      exact ih (n / 10) (by omega) (by omega)

theorem toNat_of_isDigit {c : Char} (h : c.isDigit = true) : 48 ≤ c.toNat ∧ c.toNat ≤ 57 := by
  simpa [Char.isDigit, UInt32.le_iff_toNat_le] using h

theorem ne_of_isDigit {c d : Char} (hc : c.isDigit = true) (hd : d.isDigit = false) : c ≠ d := by
  rintro rfl
  rw [hc] at hd
  cases hd

theorem isBlank_of_isDigit {c : Char} (h : c.isDigit = true) : Text.isBlank c = false := by
  have hCode := toNat_of_isDigit h
  simp only [Text.isBlank, Bool.or_eq_false_iff, Bool.and_eq_false_iff, decide_eq_false_iff_not,
    beq_eq_false_iff_ne]
  omega

/-- The text does not begin with a digit. -/
def EndsNumber (rest : List Char) : Prop :=
  ∀ c ∈ rest.head?, c.isDigit = false

/-- It is enough to look at the first character of the text. -/
theorem endsNumber_cons {c : Char} (h : c.isDigit = false) (rest : List Char) :
    EndsNumber (c :: rest) := by
  intro d hd
  cases hd
  exact h

namespace IsNumeral

variable {ds : List Char} {n : Nat}

/-- Zeros in front do not change the number. -/
theorem zeros_append (h : IsNumeral ds n) (k : Nat) :
    IsNumeral (List.replicate k '0' ++ ds) n := by
  induction k with
  | zero => exact h
  | succ k ih =>
    refine ⟨?_, by simp [h.ne_nil], ih.value⟩
    rw [List.replicate_succ, List.cons_append]
    exact List.forall_mem_cons.mpr ⟨by decide, ih.isDigit⟩

/-- Digits end where other text begins. -/
theorem takeWhile_append (h : IsNumeral ds n) {rest : List Char} (hEnd : EndsNumber rest) :
    (ds ++ rest).takeWhile Char.isDigit = ds := by
  rw [List.takeWhile_append_of_pos h.isDigit]
  -- the text after the digits is empty or begins with something else
  cases rest with
  | nil => simp
  | cons c rest => simp [hEnd c rfl]

/-- A text that begins with the digits begins with a digit. -/
theorem isDigit_of_append_eq (h : IsNumeral ds n) {rest s : List Char} {c : Char}
    (hEq : ds ++ rest = c :: s) : c.isDigit = true := by
  cases hCons : ds with
  | nil => exact absurd hCons h.ne_nil
  | cons d ds =>
    rw [hCons, List.cons_append] at hEq
    cases hEq
    exact h.isDigit c (by rw [hCons]; exact List.mem_cons_self)

/-- No blank stands before the digits. -/
theorem trimStart_append (h : IsNumeral ds n) (rest : List Char) :
    Text.trimStartChars (ds ++ rest) = ds ++ rest := by
  rw [Text.trimStartChars_eq_self_iff]
  intro c hc
  obtain ⟨s, hEq⟩ := List.head?_eq_some_iff.mp hc
  exact isBlank_of_isDigit (h.isDigit_of_append_eq hEq)

end IsNumeral

end TicketTrail
