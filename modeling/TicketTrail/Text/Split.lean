/-!
# Cutting texts

Cutting a text at the first occurrence of a separator, at every occurrence, and testing whether one
text occurs in another.
-/

namespace TicketTrail.Text

/-- Cuts at the first `sep`, which belongs to neither part; `none` when there is no `sep`. -/
def cutAt? (sep : Char) : List Char → Option (List Char × List Char)
  | [] => none
  | c :: rest =>
    if c = sep then some ([], rest)
    else (cutAt? sep rest).map fun (before, after) => (c :: before, after)

/-- Removes the text `start` from the front of `s`; `none` when `s` does not start with it. -/
def dropStart? (start s : List Char) : Option (List Char) :=
  if start.isPrefixOf s then some (s.drop start.length) else none

/-- The text `part` occurs somewhere in `whole`. -/
def occursIn (part whole : List Char) : Bool :=
  match whole with
  | [] => part.isEmpty
  | c :: rest => part.isPrefixOf (c :: rest) || occursIn part rest

/-! ## What a cut gives -/

theorem cutAt?_eq_none_iff {sep : Char} {s : List Char} : cutAt? sep s = none ↔ sep ∉ s := by
  induction s with
  | nil => simp [cutAt?]
  | cons c rest ih =>
    by_cases h : c = sep
    · simp [cutAt?, h]
    · simp [cutAt?, h, ih, Ne.symm h]

/-- A cut names the text before the first separator and the text after it. -/
theorem cutAt?_eq_some_iff {sep : Char} {s before after : List Char} :
    cutAt? sep s = some (before, after) ↔ s = before ++ sep :: after ∧ sep ∉ before := by
  induction s generalizing before with
  | nil => simp [cutAt?]
  | cons c rest ih =>
    by_cases h : c = sep
    · subst h
      constructor
      · intro hCut
        simp only [cutAt?, if_true, Option.some.injEq, Prod.mk.injEq] at hCut
        simp [← hCut.1, hCut.2]
      · rintro ⟨hEq, hNot⟩
        cases before with
        | nil => simpa [cutAt?] using hEq
        | cons d before => simp_all
    · simp only [cutAt?, h, if_false, Option.map_eq_some_iff, Prod.mk.injEq, Prod.exists]
      constructor
      · rintro ⟨b, a, hCut, rfl, rfl⟩
        obtain ⟨rfl, hNot⟩ := ih.mp hCut
        exact ⟨rfl, by simp [Ne.symm h, hNot]⟩
      · rintro ⟨hEq, hNot⟩
        cases before with
        | nil => simp_all
        | cons d before =>
          simp only [List.cons_append, List.cons.injEq] at hEq
          refine ⟨before, after, ih.mpr ⟨hEq.2, ?_⟩, ?_, rfl⟩
          · intro hMem
            exact hNot (List.mem_cons_of_mem _ hMem)
          · rw [hEq.1]

theorem dropStart?_eq_some_iff {start s rest : List Char} :
    dropStart? start s = some rest ↔ s = start ++ rest := by
  unfold dropStart?
  split
  · next h =>
    obtain ⟨t, rfl⟩ := List.isPrefixOf_iff_prefix.mp h
    simp
  · next h =>
    constructor
    · simp
    · rintro rfl
      exact absurd (List.isPrefixOf_iff_prefix.mpr (List.prefix_append _ _)) h

/-- `occursIn` decides whether `whole` is some text, `part`, and some text again. -/
theorem occursIn_iff {part whole : List Char} : occursIn part whole = true ↔ part <:+: whole := by
  induction whole with
  | nil => simp [occursIn]
  | cons c rest ih =>
    simp only [occursIn, Bool.or_eq_true, ih, List.isPrefixOf_iff_prefix]
    exact List.infix_cons_iff.symm

end TicketTrail.Text
