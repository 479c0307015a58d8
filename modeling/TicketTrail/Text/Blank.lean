/-!
# Blank characters

A character is blank when it has the Unicode property `White_Space`. Trimming removes blanks at
both ends of a text; a text is blank when nothing is left.

## Main results

* `trimChars_eq_nil_iff` — trimming leaves nothing exactly when every character is blank;
* `trimChars_trimChars` — a trimmed text is its own trimming;
* `trimChars_eq_self_iff` — a text is its own trimming exactly when neither end is blank.
-/

namespace TicketTrail.Text

/-- The Unicode property `White_Space`. -/
def isBlank (c : Char) : Bool :=
  let n := c.toNat
  (0x9 ≤ n && n ≤ 0xD) || n == 0x20 || n == 0x85 || n == 0xA0 || n == 0x1680 ||
    (0x2000 ≤ n && n ≤ 0x200A) || n == 0x2028 || n == 0x2029 || n == 0x202F || n == 0x205F ||
    n == 0x3000

/-- Removes the blanks at the start. -/
def trimStartChars (s : List Char) : List Char :=
  s.dropWhile isBlank

/-- Removes the blanks at the end. -/
def trimEndChars (s : List Char) : List Char :=
  (s.reverse.dropWhile isBlank).reverse

/-- Removes the blanks at both ends. -/
def trimChars (s : List Char) : List Char :=
  trimEndChars (trimStartChars s)

/-- Removes the blanks at both ends of a string. -/
def trim (s : String) : String :=
  String.ofList (trimChars s.toList)

/-- Every character of the string is blank. -/
def allBlank (s : String) : Bool :=
  s.toList.all isBlank

/-! ## Trimming -/

theorem dropWhile_eq_nil_iff {p : Char → Bool} {s : List Char} :
    s.dropWhile p = [] ↔ ∀ c ∈ s, p c = true := by
  induction s with
  | nil => simp
  | cons c r ih => by_cases h : p c <;> simp [h, ih]

theorem head?_dropWhile_not {p : Char → Bool} {s : List Char} {c : Char}
    (h : (s.dropWhile p).head? = some c) : p c = false := by
  induction s with
  | nil => simp at h
  | cons d r ih =>
    by_cases hd : p d
    · exact ih (by simpa [hd] using h)
    · have : d = c := by simpa [hd] using h
      simpa [← this] using hd

theorem dropWhile_dropWhile {p : Char → Bool} (s : List Char) :
    (s.dropWhile p).dropWhile p = s.dropWhile p := by
  cases hs : s.dropWhile p with
  | nil => rfl
  | cons c r =>
    have := head?_dropWhile_not (p := p) (s := s) (c := c) (by simp [hs])
    simp [this]

theorem trimEndChars_eq_nil_iff {s : List Char} :
    trimEndChars s = [] ↔ ∀ c ∈ s, isBlank c = true := by
  rw [trimEndChars, List.reverse_eq_nil_iff, dropWhile_eq_nil_iff]
  simp

theorem trimStartChars_eq_nil_iff {s : List Char} :
    trimStartChars s = [] ↔ ∀ c ∈ s, isBlank c = true :=
  dropWhile_eq_nil_iff

theorem mem_of_mem_dropWhile {p : Char → Bool} {s : List Char} {c : Char}
    (h : c ∈ s.dropWhile p) : c ∈ s :=
  (List.dropWhile_sublist p).subset h

theorem mem_of_mem_trimChars {s : List Char} {c : Char} (h : c ∈ trimChars s) : c ∈ s := by
  simp only [trimChars, trimEndChars, List.mem_reverse] at h
  exact mem_of_mem_dropWhile (List.mem_reverse.mp (mem_of_mem_dropWhile h))

/-- Trimming leaves nothing exactly when every character is blank. -/
theorem trimChars_eq_nil_iff {s : List Char} :
    trimChars s = [] ↔ ∀ c ∈ s, isBlank c = true := by
  rw [trimChars, trimEndChars_eq_nil_iff]
  constructor
  · intro h
    cases hs : trimStartChars s with
    | nil => exact trimStartChars_eq_nil_iff.mp hs
    | cons c r =>
      have hHead := head?_dropWhile_not (p := isBlank) (s := s) (c := c)
        (by rw [show s.dropWhile isBlank = c :: r from hs]; rfl)
      have := h c (by simp [hs])
      simp_all
  · intro h c hc
    exact h c (mem_of_mem_dropWhile hc)

theorem trimStartChars_eq_self_iff {s : List Char} :
    trimStartChars s = s ↔ ∀ c, s.head? = some c → isBlank c = false := by
  cases s with
  | nil => simp [trimStartChars]
  | cons c r =>
    by_cases h : isBlank c
    · have hLen : (r.dropWhile isBlank).length ≤ r.length :=
        (List.dropWhile_sublist isBlank).length_le
      simp only [trimStartChars, List.dropWhile_cons, h, if_true, List.head?_cons,
        Option.some.injEq, forall_eq', Bool.true_eq_false, iff_false]
      intro hEq
      have := congrArg List.length hEq
      simp at this
      omega
    · simp [trimStartChars, h]

theorem trimEndChars_eq_reverse (s : List Char) :
    trimEndChars s = (trimStartChars s.reverse).reverse := rfl

theorem trimEndChars_eq_self_iff {s : List Char} :
    trimEndChars s = s ↔ ∀ c, s.getLast? = some c → isBlank c = false := by
  rw [trimEndChars_eq_reverse, ← List.head?_reverse, ← trimStartChars_eq_self_iff]
  constructor
  · intro h
    simpa using congrArg List.reverse h
  · intro h
    simpa using congrArg List.reverse h

theorem trimEndChars_prefix (s : List Char) : trimEndChars s <+: s := by
  rw [← List.reverse_suffix, trimEndChars, List.reverse_reverse]
  exact List.dropWhile_suffix isBlank

/-- Neither end of a trimmed text is blank. -/
theorem trimChars_head? {s : List Char} {c : Char} (h : (trimChars s).head? = some c) :
    isBlank c = false := by
  have hPre := trimEndChars_prefix (trimStartChars s)
  rcases hPre with ⟨t, ht⟩
  have hStart : trimStartChars (trimStartChars s) = trimStartChars s := dropWhile_dropWhile s
  refine trimStartChars_eq_self_iff.mp hStart c ?_
  rw [← ht]
  cases hT : trimEndChars (trimStartChars s) with
  | nil => simp [trimChars, hT] at h
  | cons d r => simpa [trimChars, hT] using h

theorem trimChars_getLast? {s : List Char} {c : Char} (h : (trimChars s).getLast? = some c) :
    isBlank c = false := by
  have hEnd : trimEndChars (trimChars s) = trimChars s := by
    simp [trimChars, trimEndChars, dropWhile_dropWhile]
  exact trimEndChars_eq_self_iff.mp hEnd c h

/-- A text is its own trimming exactly when neither end is blank. -/
theorem trimChars_eq_self_iff {s : List Char} :
    trimChars s = s ↔
      (∀ c, s.head? = some c → isBlank c = false) ∧
        ∀ c, s.getLast? = some c → isBlank c = false := by
  constructor
  · intro h
    refine ⟨fun c hc => ?_, fun c hc => ?_⟩
    · exact trimChars_head? (s := s) (by rw [h]; exact hc)
    · exact trimChars_getLast? (s := s) (by rw [h]; exact hc)
  · rintro ⟨hHead, hLast⟩
    rw [trimChars, trimStartChars_eq_self_iff.mpr hHead, trimEndChars_eq_self_iff.mpr hLast]

/-- A trimmed text is its own trimming. -/
theorem trimChars_trimChars (s : List Char) : trimChars (trimChars s) = trimChars s :=
  trimChars_eq_self_iff.mpr ⟨fun _ h => trimChars_head? h, fun _ h => trimChars_getLast? h⟩

end TicketTrail.Text
