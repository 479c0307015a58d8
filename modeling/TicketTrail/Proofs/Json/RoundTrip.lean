import TicketTrail.Json.Printer
import TicketTrail.Json.Reader
import TicketTrail.Proofs.Numeral

/-!
# Values that are read back

The text of a value is read back as that value, whatever text follows it, so long as
that text does not go on with a number. Values with a number that is no integer, and
those that spell nothing, are left aside: nothing in a snapshot is one.

A value is read with fuel, and twice the length of its text and one more are enough of
it: each reader that is called has a shorter text to read, or the same text and one
bracket less.

Main results:

* `stringRest_escape` — a string is read back from its escapes;
* `number_toString` — an integer is read back from its digits;
* `IsPlain.value_text` — a value is read back with the text after it;
* `IsPlain.parse?_text` — a value is read back from its text.
-/

namespace TicketTrail.Json

/-- Every number in the value is an integer, and everything in it spells a value. -/
inductive IsPlain : Json → Prop where
  | null : IsPlain null
  | bool (b : Bool) : IsPlain (bool b)
  | integer (n : Int) : IsPlain (integer n)
  | string (s : String) : IsPlain (string s)
  | array {items : List Json} (each : ∀ v ∈ items, IsPlain v) : IsPlain (array items)
  | object {fields : List (String × Json)} (each : ∀ field ∈ fields, IsPlain field.2) :
      IsPlain (object fields)

namespace Reader

/-! ## Strings -/

/-- The code of a control character is read back from its hexadecimal digits. -/
theorem hex4?_hexDigit : ∀ n < 32,
    hex4? '0' '0' (hexDigit (n / 16)) (hexDigit (n % 16)) = some n := by
  decide

/-- An escape by digits is read as its character, whatever follows it. -/
theorem stringRest_digits {n : Nat} (h : n < 32) (done s : List Char) :
    stringRest true done
        ('\\' :: 'u' :: '0' :: '0' :: hexDigit (n / 16) :: hexDigit (n % 16) :: s) =
      stringRest true (Char.ofNat n :: done) s := by
  have hHex := hex4?_hexDigit n h
  -- a code this small is neither half of a pair
  have hLeading : isLeading n = false := by
    rw [isLeading, Bool.and_eq_false_iff, decide_eq_false_iff_not]
    omega
  have hTrailing : isTrailing n = false := by
    rw [isTrailing, Bool.and_eq_false_iff, decide_eq_false_iff_not]
    omega
  -- the reader looks ahead for the second half of a pair
  rw [stringRest.eq_def]
  split
  · next hEq => cases hEq
  · next hEq =>
    cases hEq
    simp only [hHex, hLeading, hTrailing, Bool.false_eq_true, if_false]
  · next hEq =>
    cases hEq
    simp only [hHex, hLeading, hTrailing, Bool.or_self, Bool.false_eq_true, if_false]
  · next hNone hEq =>
    cases hEq
    exact (hNone _ _ _ _ _ rfl rfl).elim
  · next hNone hEq =>
    cases hEq
    exact (hNone _ _ rfl rfl).elim
  · next hEq => cases hEq

/-- An escape by a letter is read as the character that it stands for. -/
theorem stringRest_letter {c d : Char} (h : letterEscape? c = some d) (done s : List Char) :
    stringRest true done ('\\' :: c :: s) = stringRest true (d :: done) s := by
  have hNotDigits : c ≠ 'u' := by
    -- the letter `u` is the one that announces digits
    rintro rfl
    have hNone : letterEscape? 'u' = none := by decide
    rw [hNone] at h
    cases h
  -- so it is neither of the two forms of an escape by digits
  rw [stringRest.eq_def]
  split
  · next hEq => cases hEq
  · next hEq =>
    cases hEq
    exact absurd rfl hNotDigits
  · next hEq =>
    cases hEq
    exact absurd rfl hNotDigits
  · next hEq =>
    cases hEq
    simp only [h]
  · next hNone hEq =>
    cases hEq
    exact (hNone _ _ rfl rfl).elim
  · next hEq => cases hEq

/-- A character that needs no escape is read as itself. -/
theorem stringRest_plain {c : Char} (hQuote : c ≠ '"') (hBackslash : c ≠ '\\')
    (hControl : ¬ c.toNat < 0x20) (done s : List Char) :
    stringRest true done (c :: s) = stringRest true (c :: done) s := by
  -- the first four forms begin with a quote or a backslash
  rw [stringRest.eq_def]
  split
  · next hEq =>
    cases hEq
    exact absurd rfl hQuote
  · next hEq =>
    cases hEq
    exact absurd rfl hBackslash
  · next hEq =>
    cases hEq
    exact absurd rfl hBackslash
  · next hEq =>
    cases hEq
    exact absurd rfl hBackslash
  · next hEq =>
    cases hEq
    simp only [hControl, hBackslash, decide_false, Bool.or_self, Bool.false_eq_true, if_false]
  · next hEq => cases hEq

/-- A character is read back from its escape, whichever kind that is. -/
theorem stringRest_escape_append (c : Char) (done s : List Char) :
    stringRest true done (escape c ++ s) = stringRest true (c :: done) s := by
  unfold escape
  -- seven characters have an escape by a letter, the other control characters one by digits
  split_ifs with hQuote hBackslash hBack hFeed hLine hReturn hTab hControl
  · exact stringRest_letter (by rw [hQuote]; decide) done s
  · exact stringRest_letter (by rw [hBackslash]; decide) done s
  · exact stringRest_letter (by rw [hBack]; decide) done s
  · exact stringRest_letter (by rw [hFeed]; decide) done s
  · exact stringRest_letter (by rw [hLine]; decide) done s
  · exact stringRest_letter (by rw [hReturn]; decide) done s
  · exact stringRest_letter (by rw [hTab]; decide) done s
  · refine (stringRest_digits hControl done s).trans ?_
    rw [Char.ofNat_toNat]
  · exact stringRest_plain hQuote hBackslash hControl done s

/-- A string is read back from its escapes. -/
theorem stringRest_escape (s done rest : List Char) :
    stringRest true done (s.flatMap escape ++ '"' :: rest) =
      some (string (String.ofList (done.reverse ++ s)), rest) := by
  -- one character after another: what has been read is kept in reverse
  induction s generalizing done with
  | nil => simp [stringRest]
  | cons c s ih =>
    rw [List.flatMap_cons, List.append_assoc, stringRest_escape_append, ih, List.reverse_cons,
      List.append_assoc, List.singleton_append]

theorem toList_quoted (s : String) (rest : List Char) :
    (quoted s).toList ++ rest = '"' :: (s.toList.flatMap escape ++ '"' :: rest) := by
  simp [quoted, String.toList_append]

/-- A string is read back up to the quote that closes it. -/
theorem stringRest_quoted (s : String) (rest : List Char) :
    stringRest true [] (s.toList.flatMap escape ++ '"' :: rest) = some (string s, rest) := by
  rw [stringRest_escape, List.reverse_nil, List.nil_append, String.ofList_toList]

/-! ## Numbers -/

/-- The text does not go on with a number. -/
def EndsInteger (rest : List Char) : Prop :=
  ∀ c ∈ rest.head?, c.isDigit = false ∧ c ≠ '.' ∧ c ≠ 'e' ∧ c ≠ 'E'

/-- It is enough to look at the first character of the text. -/
theorem endsInteger_cons {c : Char}
    (h : c.isDigit = false ∧ c ≠ '.' ∧ c ≠ 'e' ∧ c ≠ 'E') (rest : List Char) :
    EndsInteger (c :: rest) := by
  intro d hd
  cases hd
  exact h

theorem EndsInteger.endsNumber {rest : List Char} (h : EndsInteger rest) : EndsNumber rest :=
  fun c hc => (h c hc).1

/-- Without a point there is no fraction to read. -/
theorem EndsInteger.fractionPart {rest : List Char} (h : EndsInteger rest) :
    fractionPart rest = some ([], rest) := by
  unfold Reader.fractionPart
  split
  · next rest => exact absurd rfl (h '.' rfl).2.1
  · rfl

/-- Without the letter for one there is no exponent to read. -/
theorem EndsInteger.exponentPart {rest : List Char} (h : EndsInteger rest) :
    exponentPart rest = some ([], rest) := by
  cases rest with
  | nil => rfl
  | cons c rest =>
    have hHead := h c rfl
    exact if_neg (not_or.mpr hHead.2.2)

/-- The digits of a number are read as its whole part. -/
theorem wholePart_toDigits (n : Nat) {rest : List Char} (hEnd : EndsNumber rest) :
    wholePart (Nat.toDigits 10 n ++ rest) = some (Nat.toDigits 10 n, rest) := by
  have hNumeral := isNumeral_toDigits n
  -- a zero in front of other digits would be refused
  have hNoZero : ¬ ((Nat.toDigits 10 n).length > 1 ∧ (Nat.toDigits 10 n).head? = some '0') := by
    rintro ⟨hLong, hZero⟩
    cases Nat.eq_zero_or_pos n with
    | inl h => exact absurd hLong (by rw [h]; decide)
    | inr h => exact not_leading_zero h hZero
  have hDigits : digits (Nat.toDigits 10 n ++ rest) = some (Nat.toDigits 10 n, rest) := by
    rw [digits, hNumeral.takeWhile_append hEnd]
    simp [hNumeral.ne_nil]
  rw [wholePart, hDigits]
  exact if_neg hNoZero

/-- A number is read from its digits, with the sign that stood before them; only `-0` is
no integer. -/
theorem unsigned_toDigits (negative : Bool) (n : Nat) {rest : List Char} (hEnd : EndsInteger rest)
    (hSign : ¬ (negative ∧ n = 0)) :
    unsigned negative (Nat.toDigits 10 n ++ rest) =
      some (integer (if negative then -(n : Int) else n), rest) := by
  rw [unsigned, wholePart_toDigits n hEnd.endsNumber]
  simp only [Option.bind_eq_bind, Option.bind_some, hEnd.fractionPart, hEnd.exponentPart,
    (isNumeral_toDigits n).value]
  -- neither fraction nor exponent, so the number is an integer
  rw [if_pos ⟨rfl, rfl, hSign⟩]
  rfl

theorem toList_toString_of_nonneg {n : Int} (h : 0 ≤ n) :
    (toString n).toList = Nat.toDigits 10 n.toNat := by
  rw [Int.toString_eq_repr, Int.repr_eq_if, if_pos h, Nat.toList_repr]

theorem toList_toString_of_neg {n : Int} (h : n < 0) :
    (toString n).toList = '-' :: Nat.toDigits 10 (-n).toNat := by
  rw [Int.toString_eq_repr, Int.repr_eq_if, if_neg (Int.not_le.mpr h), String.toList_append,
    Nat.toList_repr]
  rfl

/-- An integer begins with a sign or a digit. -/
theorem toList_toString_eq_cons (n : Int) :
    ∃ c s, (c = '-' ∨ c.isDigit = true) ∧ (toString n).toList = c :: s := by
  cases Int.lt_or_le n 0 with
  | inl hNegative => exact ⟨'-', _, .inl rfl, toList_toString_of_neg hNegative⟩
  | inr hNonneg =>
    have hNumeral := isNumeral_toDigits n.toNat
    obtain ⟨c, s, hCons⟩ := List.exists_cons_of_ne_nil hNumeral.ne_nil
    exact ⟨c, s, .inr (hNumeral.isDigit c (by rw [hCons]; exact List.mem_cons_self)),
      (toList_toString_of_nonneg hNonneg).trans hCons⟩

/-- An integer is read back from its digits. -/
theorem number_toString (n : Int) {rest : List Char} (hEnd : EndsInteger rest) :
    number ((toString n).toList ++ rest) = some (integer n, rest) := by
  cases Int.lt_or_le n 0 with
  | inl hNegative =>
    rw [toList_toString_of_neg hNegative]
    refine (unsigned_toDigits true (-n).toNat hEnd (by omega)).trans ?_
    rw [if_pos rfl, Int.toNat_of_nonneg (by omega), Int.neg_neg]
  | inr hNonneg =>
    rw [toList_toString_of_nonneg hNonneg, number.eq_def]
    split
    · next hSign =>
      have hDigit := (isNumeral_toDigits n.toNat).isDigit_of_append_eq hSign
      exact absurd hDigit (by decide)
    · rw [unsigned_toDigits false n.toNat hEnd (by simp), if_neg (by simp),
        Int.toNat_of_nonneg hNonneg]

/-! ## Values -/

/-- A value can begin with the character. -/
def Opens (c : Char) : Prop :=
  c ∈ ['n', 't', 'f', '"', '[', '\x7b', '-'] ∨ c.isDigit = true

theorem Opens.ne {c d : Char} (h : Opens c) (hMark : d ∉ ['n', 't', 'f', '"', '[', '\x7b', '-'])
    (hDigit : d.isDigit = false) : c ≠ d := by
  rcases h with h | h
  · exact fun hEq => hMark (hEq ▸ h)
  · exact ne_of_isDigit h hDigit

theorem Opens.skipBlanks {c : Char} (h : Opens c) (s : List Char) :
    skipBlanks (c :: s) = c :: s := by
  refine List.dropWhile_cons_of_neg ?_
  simp only [Bool.or_eq_true, decide_eq_true_eq, not_or]
  exact ⟨⟨⟨h.ne (by decide) (by decide), h.ne (by decide) (by decide)⟩,
    h.ne (by decide) (by decide)⟩, h.ne (by decide) (by decide)⟩

theorem opens_of_number {c : Char} (h : c = '-' ∨ c.isDigit = true) : Opens c := by
  rcases h with rfl | hDigit
  · exact .inl (by decide)
  · exact .inr hDigit

/-- What begins with a digit or a sign is read as a number. -/
theorem value_number {c : Char} (h : c = '-' ∨ c.isDigit = true) (fuel : Nat) (s : List Char) :
    value (fuel + 1) (c :: s) = number (c :: s) := by
  have hNe : ∀ d, d ≠ '-' → d.isDigit = false → c ≠ d := by
    intro d hSign hDigit
    rcases h with rfl | h
    · exact hSign.symm
    · exact ne_of_isDigit h hDigit
  rw [value, (opens_of_number h).skipBlanks]
  -- what begins like this is none of the other kinds of values
  split
  case h_7 => rfl
  all_goals
    next hEq =>
    cases hEq
    exact (hNe _ (by decide) (by decide) rfl).elim

/-- An array whose first item stands behind its bracket is read item by item. -/
theorem value_items {c : Char} (h : Opens c) (fuel : Nat) (s : List Char) :
    value (fuel + 1) ('[' :: c :: s) = items fuel [] (c :: s) := by
  have hBracket : Opens '[' := .inl (by decide)
  rw [value, hBracket.skipBlanks]
  -- the bracket opens an array, and what follows it is not the other bracket
  split
  case h_5 rest hEq =>
    cases hEq
    rw [h.skipBlanks]
    split
    · next hEnd =>
      cases hEnd
      exact (h.ne (by decide) (by decide) rfl).elim
    · rfl
  case h_7 hArray hObject => exact (hArray _ rfl).elim
  all_goals next hEq => cases hEq

/-- An object whose first name stands behind its bracket is read field by field. -/
theorem value_fields (fuel : Nat) (s : List Char) :
    value (fuel + 1) ('\x7b' :: '"' :: s) = fields fuel true [] ('"' :: s) :=
  rfl

end Reader

/-! ## Texts -/

/-- The text of a field. -/
def fieldText (field : String × Json) : String :=
  quoted field.1 ++ ":" ++ field.2.text

theorem itemTexts_eq_map (items : List Json) : itemTexts items = items.map text := by
  induction items with
  | nil => rfl
  | cons v rest ih => rw [itemTexts, ih, List.map_cons]

theorem fieldTexts_eq_map (fields : List (String × Json)) :
    fieldTexts fields = fields.map fieldText := by
  induction fields with
  | nil => rfl
  | cons field rest ih => rw [fieldTexts, ih, List.map_cons, fieldText]

/-- Texts with commas between them. -/
def joined (texts : List String) : List Char :=
  [','].intercalate (texts.map String.toList)

@[simp] theorem joined_singleton (t : String) : joined [t] = t.toList := by
  simp [joined]

theorem joined_cons_cons (t u : String) (texts : List String) :
    joined (t :: u :: texts) = t.toList ++ ',' :: joined (u :: texts) := by
  simp [joined]

/-- Joined texts begin with the first of them. -/
theorem joined_cons (t : String) (texts : List String) :
    ∃ s, joined (t :: texts) = t.toList ++ s := by
  cases texts with
  | nil => exact ⟨[], by simp⟩
  | cons u texts => exact ⟨',' :: joined (u :: texts), joined_cons_cons t u texts⟩

theorem toList_text_array (items : List Json) :
    (array items).text.toList = '[' :: (joined (items.map text) ++ [']']) := by
  simp [text, itemTexts_eq_map, joined, String.toList_append, String.toList_intercalate]

theorem toList_text_object (fields : List (String × Json)) :
    (object fields).text.toList = '\x7b' :: (joined (fields.map fieldText) ++ ['\x7d']) := by
  simp [text, fieldTexts_eq_map, joined, String.toList_append, String.toList_intercalate]

/-- The text of a plain value begins like a value. -/
theorem IsPlain.text_opens {v : Json} (h : v.IsPlain) :
    ∃ c s, Reader.Opens c ∧ v.text.toList = c :: s := by
  cases h with
  | null => exact ⟨'n', _, .inl (by decide), rfl⟩
  | bool b =>
    cases b with
    | false => exact ⟨'f', _, .inl (by decide), rfl⟩
    | true => exact ⟨'t', _, .inl (by decide), rfl⟩
  | integer n =>
    obtain ⟨c, s, hFirst, hText⟩ := Reader.toList_toString_eq_cons n
    exact ⟨c, s, Reader.opens_of_number hFirst, hText⟩
  | string s => exact ⟨'"', _, .inl (by decide), by simpa [text] using Reader.toList_quoted s []⟩
  | array each => exact ⟨'[', _, .inl (by decide), toList_text_array _⟩
  | object each => exact ⟨'\x7b', _, .inl (by decide), toList_text_object _⟩

namespace Reader

/-! ## Values -/

/-- The value is read back with the text after it. -/
def ReadsBack (v : Json) : Prop :=
  ∀ ⦃fuel : Nat⦄ ⦃rest : List Char⦄, 2 * v.text.toList.length + 1 ≤ fuel → EndsInteger rest →
    value fuel (v.text.toList ++ rest) = some (v, rest)

theorem skipBlanks_mark {c : Char} (h : c ∈ [',', ']', '\x7d', ':', '"']) (s : List Char) :
    skipBlanks (c :: s) = c :: s := by
  refine List.dropWhile_cons_of_neg ?_
  simp only [List.mem_cons, List.not_mem_nil, or_false] at h
  rcases h with rfl | rfl | rfl | rfl | rfl <;> decide

/-- A number ends at each of the marks that follow a value. -/
theorem endsInteger_mark {c : Char} (h : c ∈ [',', ']', '\x7d']) (s : List Char) :
    EndsInteger (c :: s) := by
  refine endsInteger_cons ?_ s
  simp only [List.mem_cons, List.not_mem_nil, or_false] at h
  rcases h with rfl | rfl | rfl <;> decide

/-- The items of an array are read back, to its end. -/
theorem items_joined {l : List Json} (hNe : l ≠ []) (hEach : ∀ v ∈ l, ReadsBack v)
    (fuel : Nat) (done : List Json) (rest : List Char)
    (hFuel : 2 * (joined (l.map text)).length + 2 ≤ fuel) :
    items fuel done (joined (l.map text) ++ ']' :: rest) =
      some (array (done.reverse ++ l), rest) := by
  -- one item after another, with one unit of fuel for each
  induction l generalizing fuel done with
  | nil => exact absurd rfl hNe
  | cons v l ih =>
    obtain ⟨fuel, rfl⟩ : ∃ k, fuel = k + 1 := ⟨fuel - 1, by omega⟩
    have hFirst := hEach v List.mem_cons_self
    cases l with
    | nil =>
      rw [List.map_singleton, joined_singleton] at hFuel ⊢
      -- the last item ends at the bracket
      rw [items, hFirst (by omega) (endsInteger_mark (by decide) rest)]
      simp only [skipBlanks_mark (show ']' ∈ _ by decide) rest, List.reverse_cons]
    | cons w l =>
      have hOthers := (List.forall_mem_cons.mp hEach).2
      rw [List.map_cons, List.map_cons, joined_cons_cons, ← List.map_cons] at hFuel ⊢
      rw [List.length_append, List.length_cons] at hFuel
      -- an item that is not the last one ends at a comma
      rw [List.append_assoc, List.cons_append, items,
        hFirst (by omega) (endsInteger_mark (by decide) _)]
      simp only [skipBlanks_mark (show ',' ∈ _ by decide)]
      rw [ih (List.cons_ne_nil w l) hOthers _ _ (by omega), List.reverse_cons,
        List.append_assoc, List.singleton_append]

/-- A field is written as its name in quotes, a colon and its value. -/
theorem toList_fieldText (field : String × Json) (rest : List Char) :
    (fieldText field).toList ++ rest =
      '"' :: (field.1.toList.flatMap escape ++ '"' :: ':' :: (field.2.text.toList ++ rest)) := by
  rw [fieldText, String.toList_append, String.toList_append, List.append_assoc, List.append_assoc,
    toList_quoted]
  rfl

/-- The value of a field is shorter than the field. -/
theorem length_fieldText (field : String × Json) :
    field.2.text.toList.length < (fieldText field).toList.length := by
  rw [fieldText, String.toList_append, String.toList_append, List.length_append,
    List.length_append]
  have hColon : ":".toList.length = 1 := rfl
  omega

/-- The fields of an object are read back, to its end. -/
theorem fields_joined {l : List (String × Json)} (hNe : l ≠ [])
    (hEach : ∀ field ∈ l, ReadsBack field.2) (fuel : Nat) (done : List (String × Json))
    (rest : List Char) (hFuel : 2 * (joined (l.map fieldText)).length + 2 ≤ fuel) :
    fields fuel true done (joined (l.map fieldText) ++ '\x7d' :: rest) =
      some (object (done.reverse ++ l), rest) := by
  -- as for items; in front of each value its name is read
  induction l generalizing fuel done with
  | nil => exact absurd rfl hNe
  | cons field l ih =>
    obtain ⟨fuel, rfl⟩ : ∃ k, fuel = k + 1 := ⟨fuel - 1, by omega⟩
    have hFirst := hEach field List.mem_cons_self
    have hLength := length_fieldText field
    cases l with
    | nil =>
      rw [List.map_singleton, joined_singleton] at hFuel ⊢
      rw [toList_fieldText, fields, skipBlanks_mark (by decide)]
      simp only [stringRest_quoted, skipBlanks_mark (show ':' ∈ _ by decide)]
      rw [hFirst (by omega) (endsInteger_mark (by decide) rest)]
      simp only [skipBlanks_mark (show '\x7d' ∈ _ by decide) rest, List.reverse_cons, if_true]
    | cons other l =>
      have hOthers := (List.forall_mem_cons.mp hEach).2
      rw [List.map_cons, List.map_cons, joined_cons_cons, ← List.map_cons] at hFuel ⊢
      rw [List.length_append, List.length_cons] at hFuel
      rw [List.append_assoc, List.cons_append, toList_fieldText, fields,
        skipBlanks_mark (by decide)]
      simp only [stringRest_quoted, skipBlanks_mark (show ':' ∈ _ by decide)]
      rw [hFirst (by omega) (endsInteger_mark (by decide) _)]
      simp only [skipBlanks_mark (show ',' ∈ _ by decide)]
      rw [ih (List.cons_ne_nil other l) hOthers _ _ (by omega), List.reverse_cons,
        List.append_assoc, List.singleton_append]

/-- An array is read back if its items are. -/
theorem readsBack_array {l : List Json} (hPlain : ∀ v ∈ l, IsPlain v)
    (hEach : ∀ v ∈ l, ReadsBack v) : ReadsBack (Json.array l) := by
  intro fuel rest hFuel hEnd
  obtain ⟨fuel, rfl⟩ : ∃ k, fuel = k + 1 := ⟨fuel - 1, by omega⟩
  cases l with
  | nil => rfl
  | cons v l =>
    obtain ⟨c, s, hOpens, hText⟩ := (hPlain v List.mem_cons_self).text_opens
    obtain ⟨others, hJoined⟩ := joined_cons v.text (l.map text)
    have hCons : joined ((v :: l).map text) = c :: (s ++ others) := by
      rw [List.map_cons, hJoined, hText, List.cons_append]
    -- the reader looks for the closing bracket first, and sees how an item begins
    have hItems := items_joined (List.cons_ne_nil v l) hEach fuel [] rest
    rw [toList_text_array, List.length_cons, List.length_append] at hFuel
    rw [hCons, List.cons_append] at hItems
    rw [toList_text_array, hCons, List.cons_append, List.append_assoc, List.cons_append,
      value_items hOpens]
    -- the brackets leave fuel enough for the items
    exact hItems (by rw [← hCons]; omega)

/-- An object is read back if its values are. -/
theorem readsBack_object {l : List (String × Json)} (hEach : ∀ field ∈ l, ReadsBack field.2) :
    ReadsBack (Json.object l) := by
  intro fuel rest hFuel hEnd
  obtain ⟨fuel, rfl⟩ : ∃ k, fuel = k + 1 := ⟨fuel - 1, by omega⟩
  cases l with
  | nil => rfl
  | cons field l =>
    obtain ⟨others, hJoined⟩ := joined_cons (fieldText field) (l.map fieldText)
    have hFields := fields_joined (List.cons_ne_nil field l) hEach fuel [] rest
    rw [toList_text_object, List.length_cons, List.length_append] at hFuel
    -- the reader looks for the closing brace first, and sees the quote of a name
    rw [toList_text_object, List.cons_append, List.append_assoc, List.map_cons, hJoined,
      List.append_assoc, toList_fieldText, value_fields, ← toList_fieldText, ← List.append_assoc,
      ← hJoined]
    exact hFields (by omega)

end Reader

/-- **A plain value is read back** with the text after it. -/
theorem IsPlain.value_text {v : Json} (h : v.IsPlain) : Reader.ReadsBack v := by
  -- arrays and objects by what they hold; the others need one unit of fuel
  induction h with
  | array each ih => exact Reader.readsBack_array each ih
  | object each ih => exact Reader.readsBack_object ih
  | null =>
    intro fuel rest hFuel hEnd
    obtain ⟨fuel, rfl⟩ : ∃ k, fuel = k + 1 := ⟨fuel - 1, by omega⟩
    rfl
  | bool b =>
    intro fuel rest hFuel hEnd
    obtain ⟨fuel, rfl⟩ : ∃ k, fuel = k + 1 := ⟨fuel - 1, by omega⟩
    cases b <;> rfl
  | integer n =>
    intro fuel rest hFuel hEnd
    obtain ⟨fuel, rfl⟩ : ∃ k, fuel = k + 1 := ⟨fuel - 1, by omega⟩
    obtain ⟨c, s, hFirst, hText⟩ := Reader.toList_toString_eq_cons n
    have hNumber := Reader.number_toString n hEnd
    rw [hText, List.cons_append] at hNumber
    rw [text, hText, List.cons_append, Reader.value_number hFirst, hNumber]
  | string s =>
    intro fuel rest hFuel hEnd
    obtain ⟨fuel, rfl⟩ : ∃ k, fuel = k + 1 := ⟨fuel - 1, by omega⟩
    rw [text, Reader.toList_quoted]
    exact Reader.stringRest_quoted s rest

/-- **A plain value is read back from its text.** -/
theorem IsPlain.parse?_text {v : Json} (h : v.IsPlain) : parse? v.text = some v := by
  have hFuel : 2 * v.text.toList.length + 1 ≤ 2 * v.text.toList.length + 2 := by omega
  have hEnd : Reader.EndsInteger [] := nofun
  have hRead := h.value_text hFuel hEnd
  rw [List.append_nil] at hRead
  rw [parse?]
  simp only [hRead]
  rfl

end TicketTrail.Json
