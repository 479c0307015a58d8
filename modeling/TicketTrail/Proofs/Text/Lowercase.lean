import Mathlib.Data.Nat.Bitwise
import TicketTrail.Text.Lowercase

/-!
# Lowercasing twice

Lowercasing a text that is in lower case changes nothing. No lowercase form is
one of the characters that lowercasing changes: a fact about the case table,
checked on it with both sides as sets of bits (`lowered_clear_of_changed`). So a
lowercased text has no character left to change, nor a capital sigma, the only
one that looks at its neighbours.

Main result:

* `lower_lower` — a lowercased text is its own lowercase.
-/

namespace TicketTrail.Text

/-! ## Sets of codes -/

/-- A set of codes as the bits of a number. -/
def codeSet (codes : List Nat) : Nat :=
  codes.foldr (fun n set => set ||| 1 <<< n) 0

/-- The bits of a set are its codes. -/
theorem testBit_codeSet {codes : List Nat} {n : Nat} :
    (codeSet codes).testBit n = decide (n ∈ codes) := by
  induction codes with
  | nil => simp [codeSet]
  | cons m rest ih =>
    -- the head has its own bit, and the others theirs
    have hBit : (1 <<< m).testBit n = decide (n = m) := by
      rw [Nat.shiftLeft_eq, Nat.one_mul, Nat.testBit_two_pow]
      simp [eq_comm]
    show (codeSet rest ||| 1 <<< m).testBit n = _
    rw [Nat.testBit_or, ih, hBit, Bool.or_comm]
    simp [List.mem_cons]

/-- Sets without a common bit have no common code. -/
theorem not_mem_of_codeSet_clear {xs ys : List Nat} (h : codeSet xs &&& codeSet ys = 0) {n : Nat}
    (hn : n ∈ xs) : n ∉ ys := by
  intro hMem
  have hBit := congrArg (Nat.testBit · n) h
  simp only [Nat.testBit_and, testBit_codeSet, hn, hMem, Nat.zero_testBit] at hBit
  exact absurd hBit (by decide)

/-! ## The characters that lowercasing changes -/

/-- The codes of the characters of a run. -/
def CaseRun.codes (r : CaseRun) : List Nat :=
  (List.range ((r.last - r.first) / r.step + 1)).map fun k => r.first + k * r.step

/-- The codes of a run are all that it contains. -/
theorem CaseRun.mem_codes_of_contains {r : CaseRun} {n : Nat} (h : r.contains n = true) :
    n ∈ r.codes := by
  simp only [CaseRun.contains, Bool.and_eq_true, decide_eq_true_eq, beq_iff_eq] at h
  obtain ⟨⟨hFirst, hLast⟩, hStep⟩ := h
  -- a code of the run is some number of steps from its first
  refine List.mem_map.mpr ⟨(n - r.first) / r.step, List.mem_range.mpr ?_, ?_⟩
  · exact Nat.lt_succ_of_le (Nat.div_le_div_right (by omega))
  · rw [Nat.div_mul_cancel (Nat.dvd_of_mod_eq_zero hStep)]
    omega

/-- The character with the code is a capital of ASCII, `İ`, or in a run. -/
def Changes (n : Nat) : Prop :=
  (0x41 ≤ n ∧ n ≤ 0x5A) ∨ n = 0x130 ∨ ∃ r ∈ caseRuns, r.contains n = true

/-- The codes of the characters that lowercasing changes. -/
def changedCodes : List Nat :=
  List.range' 0x41 26 ++ 0x130 :: caseRuns.flatMap CaseRun.codes

/-- The codes of all lowercase forms: of `İ`, of the sigmas, of ASCII and of the
runs. -/
def loweredCodes : List Nat :=
  [0x69, 0x307, 0x3C2, 0x3C3] ++ (List.range 0x80).map (fun n => (Char.ofNat n).toLower.toNat) ++
    caseRuns.flatMap fun r => r.codes.map fun n : Nat => ((n : Int) + r.shift).toNat

set_option maxRecDepth 10000 in
/-- No lowercase form is changed by lowercasing: the two sets, over the whole case table,
have no bit in common. -/
theorem lowered_clear_of_changed : codeSet loweredCodes &&& codeSet changedCodes = 0 := by
  decide +kernel

/-- Whatever lowercasing changes is listed. -/
theorem mem_changedCodes {n : Nat} (h : Changes n) : n ∈ changedCodes := by
  rw [changedCodes, List.mem_append, List.mem_cons, List.mem_range']
  rcases h with ⟨hFirst, hLast⟩ | h | ⟨r, hr, h⟩
  · -- the capitals of ASCII stand in one range
    exact Or.inl ⟨n - 0x41, by omega, by omega⟩
  · exact Or.inr (Or.inl h)
  · exact Or.inr (Or.inr (List.mem_flatMap.mpr ⟨r, hr, CaseRun.mem_codes_of_contains h⟩))

theorem not_changes_of_mem_loweredCodes {n : Nat} (h : n ∈ loweredCodes) : ¬ Changes n :=
  fun hChanges => not_mem_of_codeSet_clear lowered_clear_of_changed h (mem_changedCodes hChanges)

/-! ## Lowercase forms -/

theorem toLower_of_lt {n : Nat} (hn : n < 0x80) (h : ¬ (0x41 ≤ n ∧ n ≤ 0x5A)) :
    (Char.ofNat n).toLower = Char.ofNat n := by
  revert n
  decide

/-- A character outside the runs and the capitals is its own lowercase form. -/
theorem lowerChar_of_not_changes {c : Char} (h : ¬ Changes c.toNat) : lowerChar c = [c] := by
  have hDot : c ≠ 'İ' := by
    rintro rfl
    exact h (Or.inr (Or.inl rfl))
  rw [lowerChar, if_neg hDot, lowerSimple]
  split
  · next hAscii =>
    have hLower := toLower_of_lt hAscii fun hCapital => h (Or.inl hCapital)
    rw [Char.ofNat_toNat] at hLower
    rw [hLower]
  · split
    · next r hFind =>
      have hContains : r.contains c.toNat = true := by simpa using List.find?_some hFind
      exact absurd (Or.inr (Or.inr ⟨r, List.mem_of_find?_eq_some hFind, hContains⟩)) h
    · rfl

/-- The capital sigma is in a run, so a character that stays is none. -/
theorem ne_sigma_of_not_changes {c : Char} (h : ¬ Changes c.toNat) : c ≠ 'Σ' := by
  rintro rfl
  exact h (Or.inr (Or.inr ⟨⟨0x3A3, 0x3AB, 1, 32⟩, by decide, by decide⟩))

/-- The one-character form is not changed again. -/
theorem not_changes_lowerSimple {c : Char} (hDot : c ≠ 'İ') : ¬ Changes (lowerSimple c).toNat := by
  unfold lowerSimple
  split
  · next hAscii =>
    apply not_changes_of_mem_loweredCodes
    refine List.mem_append_left _ (List.mem_append_right _ (List.mem_map.mpr
      ⟨c.toNat, List.mem_range.mpr hAscii, ?_⟩))
    rw [Char.ofNat_toNat]
  · next hAscii =>
    split
    · next r hFind =>
      have hContains : r.contains c.toNat = true := by simpa using List.find?_some hFind
      apply not_changes_of_mem_loweredCodes
      have hForm : ((c.toNat : Int) + r.shift).toNat ∈ loweredCodes := by
        exact List.mem_append_right _ (List.mem_flatMap.mpr
          ⟨r, List.mem_of_find?_eq_some hFind, List.mem_map.mpr
            ⟨c.toNat, CaseRun.mem_codes_of_contains hContains, rfl⟩⟩)
      -- a number that is no code stands for U+0000, which is a lowercase form as well
      by_cases hValid : (((c.toNat : Int) + r.shift).toNat).isValidChar
      · rwa [Char.ofNat, dif_pos hValid]
      · rw [Char.ofNat, dif_neg hValid]
        decide
    · next hFind =>
      -- the character stays, and it is none of those that change
      rintro (⟨-, hLast⟩ | hCode | ⟨r, hr, hContains⟩)
      · omega
      · exact hDot (by rw [← Char.ofNat_toNat c, hCode])
      · exact List.find?_eq_none.mp hFind r hr hContains

/-- No character of a lowercased text is changed by lowercasing. -/
theorem not_changes_of_mem_lowerAfter {before s : List Char} {c : Char}
    (h : c ∈ lowerAfter before s) : ¬ Changes c.toNat := by
  induction s generalizing before with
  | nil => simp [lowerAfter] at h
  | cons d rest ih =>
    rw [lowerAfter, List.mem_append] at h
    rcases h with h | h
    · split at h
      · -- a capital sigma becomes one of the two small ones
        rw [List.mem_singleton] at h
        apply not_changes_of_mem_loweredCodes
        rw [h]
        split <;> decide
      · rw [lowerChar] at h
        split at h
        · -- `İ` becomes two characters
          simp only [List.mem_cons, List.not_mem_nil, or_false] at h
          apply not_changes_of_mem_loweredCodes
          rcases h with rfl | rfl <;> decide
        · next hDot =>
          rw [List.mem_singleton] at h
          rw [h]
          exact not_changes_lowerSimple hDot
    · exact ih h

/-- A text without a character to change is its own lowercase, wherever it stands. -/
theorem lowerAfter_of_not_changes {before s : List Char} (h : ∀ c ∈ s, ¬ Changes c.toNat) :
    lowerAfter before s = s := by
  induction s generalizing before with
  | nil => rfl
  | cons c rest ih =>
    have hHead := h c List.mem_cons_self
    -- what stands before is not looked at: that takes a capital sigma
    rw [lowerAfter, if_neg (ne_sigma_of_not_changes hHead), lowerChar_of_not_changes hHead,
      ih fun d hd => h d (List.mem_cons_of_mem _ hd), List.singleton_append]

theorem lowerChars_lowerChars (s : List Char) : lowerChars (lowerChars s) = lowerChars s :=
  lowerAfter_of_not_changes fun _ hc => not_changes_of_mem_lowerAfter hc

/-- **A lowercased text is its own lowercase.** -/
theorem lower_lower (s : String) : lower (lower s) = lower s := by
  rw [lower, lower, String.toList_ofList, lowerChars_lowerChars]

end TicketTrail.Text
