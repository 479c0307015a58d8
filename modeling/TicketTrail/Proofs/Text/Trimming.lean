import Mathlib.Data.List.Basic
import Mathlib.Data.List.Forall2
import TicketTrail.Text.Blank

/-!
# What trimming leaves

Trimming is defined by dropping from either end. Here it is said without the
dropping: a text is its trimming with blanks around it
(`trimChars_surrounded`), and whatever trimmed text stands so in the text is its
trimming (`trimChars_eq_of_surrounded`). Lemmas on joined texts follow from the
two without another look at the ends. A text that is cut at a separator is cut into
the same pieces with blanks around it, blanks aside (`splitOn_surrounded`).
-/

namespace TicketTrail.Text

/-- The text is `middle` with blanks before and after it. -/
def Surrounded (middle s : List Char) : Prop :=
  ∃ before after, s = before ++ middle ++ after ∧
    (∀ c ∈ before, isBlank c = true) ∧ ∀ c ∈ after, isBlank c = true

theorem dropWhile_blanks_append {before s : List Char} (hBlank : ∀ c ∈ before, isBlank c = true)
    (hHead : ∀ c, s.head? = some c → isBlank c = false) :
    (before ++ s).dropWhile isBlank = s := by
  rw [List.dropWhile_append_of_pos hBlank]
  exact trimStartChars_eq_self_iff.mpr hHead

/-- A text is its trimming with blanks around it. -/
theorem trimChars_surrounded (s : List Char) : Surrounded (trimChars s) s := by
  refine ⟨s.takeWhile isBlank, ((trimStartChars s).reverse.takeWhile isBlank).reverse, ?_, ?_, ?_⟩
  · -- what is dropped at the end is what was taken from the reversed text
    have hEnd : trimStartChars s =
        trimChars s ++ ((trimStartChars s).reverse.takeWhile isBlank).reverse := by
      rw [trimChars, trimEndChars, ← List.reverse_append, List.takeWhile_append_dropWhile,
        List.reverse_reverse]
    rw [List.append_assoc, ← hEnd, trimStartChars, List.takeWhile_append_dropWhile]
  · intro c hc
    exact List.all_eq_true.mp List.all_takeWhile c hc
  · intro c hc
    exact List.all_eq_true.mp List.all_takeWhile c (List.mem_reverse.mp hc)

/-- Trimming loses no character that is not blank. -/
theorem mem_trimChars_of_mem {s : List Char} {c : Char} (hc : c ∈ s) (hBlank : isBlank c = false) :
    c ∈ trimChars s := by
  obtain ⟨before, after, hEq, hBefore, hAfter⟩ := trimChars_surrounded s
  rw [hEq, List.mem_append, List.mem_append] at hc
  rcases hc with (hc | hc) | hc
  · rw [hBefore c hc] at hBlank
    exact absurd hBlank (by decide)
  · exact hc
  · rw [hAfter c hc] at hBlank
    exact absurd hBlank (by decide)

/-- Whatever trimmed text stands among blanks is the trimming. -/
theorem trimChars_eq_of_surrounded {middle s : List Char} (h : Surrounded middle s)
    (hTrim : trimChars middle = middle) : trimChars s = middle := by
  obtain ⟨before, after, rfl, hBefore, hAfter⟩ := h
  by_cases hNil : middle = []
  · -- with nothing between them the blanks are one run
    subst hNil
    rw [trimChars_eq_nil_iff]
    intro c hc
    rcases List.mem_append.mp hc with hc | hc
    · exact hBefore c (by simpa using hc)
    · exact hAfter c hc
  · obtain ⟨hHead, hLast⟩ := trimChars_eq_self_iff.mp hTrim
    have hStart : trimStartChars (before ++ middle ++ after) = middle ++ after := by
      rw [trimStartChars, List.append_assoc]
      refine dropWhile_blanks_append hBefore fun c hc => hHead c ?_
      obtain ⟨d, rest, rfl⟩ := List.exists_cons_of_ne_nil hNil
      simpa using hc
    -- the end is the beginning of the reversed text
    have hEnd : (after.reverse ++ middle.reverse).dropWhile isBlank = middle.reverse :=
      dropWhile_blanks_append (fun c hc => hAfter c (List.mem_reverse.mp hc))
        fun c hc => hLast c (by simpa using hc)
    rw [trimChars, hStart, trimEndChars, List.reverse_append, hEnd, List.reverse_reverse]

theorem Surrounded.refl (s : List Char) : Surrounded s s :=
  ⟨[], [], by simp, by simp, by simp⟩

/-- Blanks around blanks are blanks around the text. -/
theorem Surrounded.trans {r s t : List Char} (h : Surrounded r s) (h' : Surrounded s t) :
    Surrounded r t := by
  obtain ⟨before, after, rfl, hBefore, hAfter⟩ := h
  obtain ⟨before', after', rfl, hBefore', hAfter'⟩ := h'
  refine ⟨before' ++ before, after ++ after', by simp, ?_, ?_⟩
  · intro c hc
    exact (List.mem_append.mp hc).elim (hBefore' c) (hBefore c)
  · intro c hc
    exact (List.mem_append.mp hc).elim (hAfter c) (hAfter' c)

/-- Blanks around a text do not matter to its trimming. -/
theorem trimChars_congr {middle s : List Char} (h : Surrounded middle s) :
    trimChars s = trimChars middle :=
  trimChars_eq_of_surrounded ((trimChars_surrounded middle).trans h) (trimChars_trimChars middle)

/-- A text that begins and ends with trimmed texts is trimmed. -/
theorem trimChars_between {a b : List Char} (middle : List Char) (ha : a ≠ []) (hb : b ≠ [])
    (hTrimA : trimChars a = a) (hTrimB : trimChars b = b) :
    trimChars (a ++ middle ++ b) = a ++ middle ++ b := by
  rw [trimChars_eq_self_iff] at hTrimA hTrimB ⊢
  constructor
  · intro c hc
    obtain ⟨d, rest, rfl⟩ := List.exists_cons_of_ne_nil ha
    exact hTrimA.1 c (by simpa using hc)
  · intro c hc
    rw [List.getLast?_append_of_ne_nil _ hb] at hc
    exact hTrimB.2 c hc

/-- Trimming a text that begins with a trimmed one keeps that beginning, and what
follows it has the same trimming as before. -/
theorem exists_trimChars_append {a s : List Char} (ha : a ≠ []) (hTrim : trimChars a = a)
    (hs : trimChars s ≠ []) :
    ∃ rest, trimChars (a ++ s) = a ++ rest ∧ trimChars rest = trimChars s := by
  obtain ⟨before, after, hEq, hBefore, hAfter⟩ := trimChars_surrounded s
  -- the blanks before what follows are inside the text now, those after it are not
  refine ⟨before ++ trimChars s, ?_, ?_⟩
  · have hBetween := trimChars_between before ha hs hTrim (trimChars_trimChars s)
    rw [List.append_assoc] at hBetween
    refine trimChars_eq_of_surrounded ⟨[], after, ?_, by simp, hAfter⟩ hBetween
    conv_lhs => rw [hEq]
    simp only [List.append_assoc, List.nil_append]
  · exact trimChars_eq_of_surrounded ⟨before, [], by simp, hBefore, by simp⟩
      (trimChars_trimChars s)

/-! ## Cutting among blanks -/

section Cutting

variable {sep : Char} {before after : List Char}

/-- What stands before a text joins the first of its pieces. -/
theorem exists_splitOn_append_left (h : sep ∉ before) (s : List Char) :
    ∃ first rest, s.splitOn sep = first :: rest ∧
      (before ++ s).splitOn sep = (before ++ first) :: rest := by
  induction before with
  | nil =>
    obtain ⟨first, rest, hCut⟩ := List.exists_cons_of_ne_nil (List.splitOn_ne_nil sep s)
    exact ⟨first, rest, hCut, hCut⟩
  | cons c before ih =>
    obtain ⟨hHead, hTail⟩ := not_or.mp (List.mem_cons.not.mp h)
    obtain ⟨first, rest, hCut, hJoined⟩ := ih hTail
    refine ⟨first, rest, hCut, ?_⟩
    -- the character is no separator, so it goes to the front of the first piece
    rw [List.cons_append, List.splitOn_cons_eq_if_modifyHead,
      if_neg (by simpa using Ne.symm hHead), hJoined]
    rfl

/-- What stands after a text joins the last of its pieces. -/
theorem exists_splitOn_append_right (h : sep ∉ after) (s : List Char) :
    ∃ front last, s.splitOn sep = front ++ [last] ∧
      (s ++ after).splitOn sep = front ++ [last ++ after] := by
  induction s with
  | nil => exact ⟨[], [], List.splitOn_nil sep, List.splitOn_eq_singleton h⟩
  | cons c s ih =>
    obtain ⟨front, last, hCut, hJoined⟩ := ih
    rw [List.cons_append, List.splitOn_cons_eq_if_modifyHead, List.splitOn_cons_eq_if_modifyHead,
      hCut, hJoined]
    split
    · exact ⟨[] :: front, last, rfl, rfl⟩
    · -- the character joins the first piece, which may be the last one
      cases front with
      | nil => exact ⟨[], c :: last, rfl, rfl⟩
      | cons first front => exact ⟨(c :: first) :: front, last, rfl, rfl⟩

/-- A text with blanks around it is cut into its own pieces, with blanks around them. -/
theorem splitOn_surrounded (hSep : isBlank sep = false) {middle s : List Char}
    (h : Surrounded middle s) : List.Forall₂ Surrounded (middle.splitOn sep) (s.splitOn sep) := by
  obtain ⟨before, after, rfl, hBefore, hAfter⟩ := h
  have hNot : ∀ blanks : List Char, (∀ c ∈ blanks, isBlank c = true) → sep ∉ blanks := by
    intro blanks hBlanks hMem
    rw [hBlanks sep hMem] at hSep
    exact Bool.false_ne_true hSep.symm
  obtain ⟨front, last, hCut, hRight⟩ := exists_splitOn_append_right (hNot after hAfter) middle
  obtain ⟨first, rest, hFirst, hLeft⟩ :=
    exists_splitOn_append_left (hNot before hBefore) (middle ++ after)
  rw [hRight] at hFirst
  rw [List.append_assoc, hLeft, hCut]
  cases front with
  | nil =>
    -- the text is in one piece, which gets the blanks on both sides
    cases hFirst
    exact .cons ⟨before, after, by simp, hBefore, hAfter⟩ .nil
  | cons piece front =>
    cases hFirst
    refine .cons ⟨before, [], by simp, hBefore, by simp⟩ (List.rel_append ?_ ?_)
    · exact List.forall₂_same.mpr fun piece _ => Surrounded.refl piece
    · exact .cons ⟨[], after, by simp, by simp, hAfter⟩ .nil

end Cutting

end TicketTrail.Text
