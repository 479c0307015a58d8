import TicketTrail.Search.Evaluation

/-!
# Titles that hold the query

The query and the title are lowercased apart from each other, each as a whole, and only
then is the one looked for in the other. Lowercasing goes character by character, so
the two agree where the query stands in the title, with one exception: a capital sigma
looks at its neighbours. At the end of a query it is final, and in the middle of a
title it may not be. So a ticket whose title holds the query to the letter is found,
unless some capital sigma of the query ends a word in the one and not in the other.

Main results:

* `Text.lowerAfter_append` — a text is lowercased part by part, each part in its place;
* `Text.lowerBetween_eq_iff` — a part is lowercased alike in two places exactly when
  each of its capital sigmas is;
* `Search.query_in_title_finds` — which queries that stand in the title find the ticket;
* `Search.query_in_title_missed` — one that does not.
-/

namespace TicketTrail

/-! ## Lowercasing a part of a text -/

namespace Text

/-- Lowercases the text that stands between `before` (nearest character first) and
`after`. -/
def lowerBetween (before after : List Char) : List Char → List Char
  | [] => []
  | c :: rest =>
    (if c = 'Σ' then [if sigmaIsFinal before (rest ++ after) then 'ς' else 'σ']
      else lowerChar c) ++ lowerBetween (c :: before) after rest

theorem lowerBetween_nil_right (before s : List Char) :
    lowerBetween before [] s = lowerAfter before s := by
  induction s generalizing before with
  | nil => rfl
  | cons c rest ih => rw [lowerBetween, lowerAfter, ih, List.append_nil]

/-- A text is lowercased part by part, each part in its place. -/
theorem lowerAfter_append (before s after : List Char) :
    lowerAfter before (s ++ after) =
      lowerBetween before after s ++ lowerAfter (s.reverse ++ before) after := by
  -- what has been read grows with every character, so it varies
  induction s generalizing before with
  | nil => rfl
  | cons c rest ih =>
    rw [List.cons_append, lowerAfter, lowerBetween, ih, List.append_assoc, List.reverse_cons,
      List.append_assoc, List.singleton_append]

/-- The place of a text decides between the two small sigmas, and not on the length. -/
theorem length_lowerBetween (before after before' after' s : List Char) :
    (lowerBetween before after s).length = (lowerBetween before' after' s).length := by
  induction s generalizing before before' with
  | nil => rfl
  | cons c rest ih =>
    rw [lowerBetween, lowerBetween, List.length_append, List.length_append,
      ih (c :: before) (c :: before')]
    split <;> rfl

/-- Each capital sigma of the text ends a word in both of its places, or in neither. -/
def SigmasAgree (before after before' after' s : List Char) : Prop :=
  ∀ u v, s = u ++ 'Σ' :: v →
    sigmaIsFinal (u.reverse ++ before) (v ++ after) =
      sigmaIsFinal (u.reverse ++ before') (v ++ after')

/-- The capital sigmas of a text are its first character, if it is one, and those of the
rest. -/
theorem sigmasAgree_cons {before after before' after' rest : List Char} {c : Char} :
    SigmasAgree before after before' after' (c :: rest) ↔
      (c = 'Σ' → sigmaIsFinal before (rest ++ after) = sigmaIsFinal before' (rest ++ after')) ∧
        SigmasAgree (c :: before) after (c :: before') after' rest := by
  constructor
  · intro h
    refine ⟨fun hSigma => h [] rest (by rw [hSigma]; rfl), fun u v hRest => ?_⟩
    have hTail := h (c :: u) v (by rw [hRest]; rfl)
    simpa only [List.reverse_cons, List.append_assoc, List.singleton_append] using hTail
  · rintro ⟨hHead, hRest⟩ u v hEq
    cases u with
    | nil =>
      cases hEq
      exact hHead rfl
    | cons d u =>
      cases hEq
      have hTail := hRest u v rfl
      simpa only [List.reverse_cons, List.append_assoc, List.singleton_append] using hTail

theorem small_sigma_inj {a b : Bool} :
    (if a then 'ς' else 'σ') = (if b then 'ς' else 'σ') ↔ a = b := by
  revert a b
  decide

/-- **A part of a text is lowercased alike in two places** exactly when each of its
capital sigmas is. -/
theorem lowerBetween_eq_iff {before after before' after' s : List Char} :
    lowerBetween before after s = lowerBetween before' after' s ↔
      SigmasAgree before after before' after' s := by
  induction s generalizing before before' with
  | nil => simp [lowerBetween, SigmasAgree]
  | cons c rest ih =>
    rw [sigmasAgree_cons, ← ih, lowerBetween, lowerBetween]
    -- only a capital sigma looks around, so only there can the two places differ
    by_cases hSigma : c = 'Σ'
    · rw [if_pos hSigma, if_pos hSigma, List.singleton_append, List.singleton_append,
        List.cons.injEq, small_sigma_inj, imp_iff_right hSigma]
    · rw [if_neg hSigma, if_neg hSigma, List.append_right_inj]
      exact ⟨fun h => ⟨fun hEq => absurd hEq hSigma, h⟩, And.right⟩

/-- The lowercase of a text, cut where a part of it stands. -/
theorem lowerChars_around (a q b : List Char) :
    lowerChars (a ++ q ++ b) =
      lowerBetween [] (q ++ b) a ++ lowerBetween a.reverse b q ++
        lowerAfter (a ++ q).reverse b := by
  rw [lowerChars, List.append_assoc, lowerAfter_append, lowerAfter_append, List.append_nil,
    List.reverse_append, List.append_assoc]

/-- The lowercase of a part stands in the lowercase of the text where the part stands in
the text. -/
def LowersInPlace (a q b : List Char) : Prop :=
  ∃ x y, lowerChars (a ++ q ++ b) = x ++ lowerChars q ++ y ∧ x.length = (lowerChars a).length

/-- A query is found where it stands when its capital sigmas end words there as they do in
it. -/
theorem lowersInPlace_iff {a q b : List Char} :
    LowersInPlace a q b ↔ SigmasAgree a.reverse b [] [] q := by
  have hAlone : lowerChars q = lowerBetween [] [] q := (lowerBetween_nil_right [] q).symm
  have hFront : (lowerBetween [] (q ++ b) a).length = (lowerChars a).length := by
    rw [lowerChars, ← lowerBetween_nil_right]
    exact length_lowerBetween ..
  rw [← lowerBetween_eq_iff, ← hAlone, LowersInPlace, lowerChars_around]
  constructor
  · rintro ⟨x, y, hEq, hLength⟩
    rw [List.append_assoc, List.append_assoc] at hEq
    obtain ⟨-, hRest⟩ := List.append_inj hEq (hFront.trans hLength.symm)
    -- what is before has one length, so the two cuts are at the same place
    refine (List.append_inj hRest ?_).1
    rw [hAlone]
    exact length_lowerBetween ..
  · intro hEq
    exact ⟨_, _, by rw [hEq], hFront⟩

end Text

/-! ## Searching by a query -/

namespace Search

/-- The filters that are read from a query alone. -/
theorem parse_query (now : Instant) (q : String) :
    Filters.parse now { query := some q } = .ok { query := some (Text.lower q) } := rfl

/-- With a query alone, a ticket is found when the lowercased query occurs in the
lowercased title. -/
theorem evaluate_query (catalog : Catalog) (t : Ticket) (query : String) :
    ({ filters := { query := some query }, catalog, tag := none } : Search).evaluate t =
      if Text.occursIn query.toList (Text.lower t.title).toList then some ⟨[], none, none⟩
      else none := by
  cases h : Text.occursIn query.toList (Text.lower t.title).toList <;>
    simp [evaluate, passesQuery, passesCreated, passesUpdated, passesTag, matchedBoards?,
      matchedText?, h]

/-- **A query that stands in the title finds the ticket**, unless some capital sigma of
the query ends a word in the query and not in the title, or the other way about; and
these are the queries whose lowercase stands in that of the title at the same place. -/
theorem query_in_title_finds (now : Instant) (catalog : Catalog) (t : Ticket) (a q b : String)
    (hTitle : t.title = a ++ q ++ b) :
    ∃ f, Filters.parse now { query := some q } = .ok f ∧
      (Text.SigmasAgree a.toList.reverse b.toList [] [] q.toList →
        ({ filters := f, catalog, tag := none } : Search).evaluate t = some ⟨[], none, none⟩) ∧
      (Text.LowersInPlace a.toList q.toList b.toList ↔
        Text.SigmasAgree a.toList.reverse b.toList [] [] q.toList) := by
  refine ⟨_, parse_query now q, fun hSigmas => ?_, Text.lowersInPlace_iff⟩
  obtain ⟨x, y, hEq, -⟩ := Text.lowersInPlace_iff.mpr hSigmas
  have hOccurs : Text.occursIn (Text.lower q).toList (Text.lower t.title).toList = true := by
    -- the lowercase of the query stands between `x` and `y`
    rw [Text.occursIn_iff, Text.lower, Text.lower, String.toList_ofList, String.toList_ofList,
      hTitle, String.toList_append, String.toList_append, hEq]
    exact ⟨x, y, rfl⟩
  rw [evaluate_query, if_pos hOccurs]

/-- A ticket with the given title. -/
def titled (title : String) : Ticket where
  id := 7
  title
  status := "open"
  priority := "80"
  createdAt := .earliest
  updatedAt := .earliest

/-- The catalog of a tracker without projects. -/
def bareCatalog : Catalog := Catalog.ofSnapshot {} {}

/-- A final sigma before a mark is final in the query as well. -/
theorem query_in_title_finds_word :
    (titled "ΤΟ ΦΩΣ!").title = "ΤΟ " ++ "ΦΩΣ" ++ "!" ∧
      Text.SigmasAgree "ΤΟ ".toList.reverse "!".toList [] [] "ΦΩΣ".toList ∧
      ∃ f, Filters.parse .earliest { query := some "ΦΩΣ" } = .ok f ∧
        ({ filters := f, catalog := bareCatalog, tag := none } : Search).evaluate
          (titled "ΤΟ ΦΩΣ!") = some ⟨[], none, none⟩ := by
  have hTitle : (titled "ΤΟ ΦΩΣ!").title = "ΤΟ " ++ "ΦΩΣ" ++ "!" := by decide
  obtain ⟨f, hParse, hFinds, -⟩ :=
    query_in_title_finds .earliest bareCatalog (titled "ΤΟ ΦΩΣ!") _ _ _ hTitle
  have hSigmas : Text.SigmasAgree "ΤΟ ".toList.reverse "!".toList [] [] "ΦΩΣ".toList :=
    Text.lowersInPlace_iff.mp ⟨"το ".toList, "!".toList, by decide +kernel, by decide +kernel⟩
  exact ⟨hTitle, hSigmas, f, hParse, hFinds hSigmas⟩

/-- A title that begins with the query, in which the last letter of the query ends no
word. -/
theorem query_in_title_missed :
    ¬ ∀ (now : Instant) (catalog : Catalog) (t : Ticket) (a q b : String),
      t.title = a ++ q ++ b →
        ∃ f, Filters.parse now { query := some q } = .ok f ∧
          (({ filters := f, catalog, tag := none } : Search).evaluate t).isSome = true := by
  intro h
  obtain ⟨f, hParse, hSome⟩ :=
    h .earliest bareCatalog (titled "ΦΩΣΦΟΡΟΣ") "" "ΦΩΣ" "ΦΟΡΟΣ" (by decide)
  cases (parse_query .earliest "ΦΩΣ").symm.trans hParse
  -- the query ends in a final sigma and the title has a plain one there
  rw [evaluate_query] at hSome
  revert hSome
  decide +kernel

end Search

end TicketTrail
