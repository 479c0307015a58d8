import Mathlib.Data.List.Forall2
import TicketTrail.NonEmpty

/-!
# The first failure

A function that may fail is applied to the entries of a list in order, and the
first failure is the answer. This module says so without the monad: mapping
succeeds exactly when every entry does, and it fails exactly when some entry is
the first to fail. Lists are also mapped group by group; the first failure is
then the first among the entries of all groups, in order.

Often the fault of an entry is known beforehand, by a function of its own, and so is
the value in case there is none (`unlessFault`). Then mapping is an equation.

Main results:

* `list_mapM_eq_ok_iff`, `list_mapM_eq_error_iff` — what mapping comes to, over
  lists, and `NonEmpty.mapM_eq_ok_iff`, `NonEmpty.mapM_eq_error_iff` over lists
  that are not empty;
* `firstFailure_flatten` — the first failure in groups is the first failure in
  their entries;
* `list_mapM_unlessFault` — mapping, where faults are known beforehand.
-/

namespace TicketTrail

variable {ε α β : Type}

/-! ## One step after another -/

/-- Two steps succeed when both do. -/
theorem bind_eq_ok_iff {x : Except ε α} {f : α → Except ε β} {b : β} :
    x >>= f = .ok b ↔ ∃ a, x = .ok a ∧ f a = .ok b := by
  cases x with
  | error e => simp [bind, Except.bind]
  | ok a => simp [bind, Except.bind]

/-- Two steps fail when the first does, or the second after it. -/
theorem bind_eq_error_iff {x : Except ε α} {f : α → Except ε β} {e : ε} :
    x >>= f = .error e ↔ x = .error e ∨ ∃ a, x = .ok a ∧ f a = .error e := by
  cases x with
  | error e => simp [bind, Except.bind]
  | ok a => simp [bind, Except.bind]

theorem map_eq_ok_iff {x : Except ε α} {f : α → β} {b : β} :
    x.map f = .ok b ↔ ∃ a, x = .ok a ∧ f a = b := by
  cases x with
  | error e => simp [Except.map]
  | ok a => simp [Except.map]

/-- A result can be told from its value alone. -/
theorem eq_ok_of_toOption {x : Except ε α} {a : α} (h : x.toOption = some a) : x = .ok a := by
  cases x with
  | error e => cases h
  | ok b =>
    cases h
    rfl

/-! ## The first entry that is not fine -/

/-- Some entry is the first that is not fine, and it fails with `e`. -/
def FirstFailure (Fine : α → Prop) (Fails : α → ε → Prop) (l : List α) (e : ε) : Prop :=
  ∃ before a after, l = before ++ a :: after ∧ (∀ b ∈ before, Fine b) ∧ Fails a e

section FirstFailure

variable {Fine : α → Prop} {Fails : α → ε → Prop} {e : ε}

theorem not_firstFailure_nil : ¬ FirstFailure Fine Fails [] e := by
  rintro ⟨before, a, after, hEq, -⟩
  simp at hEq

/-- The first failure is that of the head, or the head is fine and it is one of the rest. -/
theorem firstFailure_cons {a : α} {l : List α} :
    FirstFailure Fine Fails (a :: l) e ↔ Fails a e ∨ (Fine a ∧ FirstFailure Fine Fails l e) := by
  constructor
  · rintro ⟨before, b, after, hEq, hBefore, hFails⟩
    -- the entry that fails is the head, or it stands behind it
    cases before with
    | nil =>
      cases hEq
      exact Or.inl hFails
    | cons c before =>
      cases hEq
      obtain ⟨hFine, hBefore⟩ := List.forall_mem_cons.mp hBefore
      exact Or.inr ⟨hFine, before, b, after, rfl, hBefore, hFails⟩
  · rintro (hFails | ⟨hFine, before, b, after, rfl, hBefore, hFails⟩)
    · exact ⟨[], a, l, rfl, by simp, hFails⟩
    · exact ⟨a :: before, b, after, rfl, List.forall_mem_cons.mpr ⟨hFine, hBefore⟩, hFails⟩

/-- The first failure in two lists is in the first one, or that is fine and it is in the
second. -/
theorem firstFailure_append {l m : List α} :
    FirstFailure Fine Fails (l ++ m) e ↔
      FirstFailure Fine Fails l e ∨ ((∀ a ∈ l, Fine a) ∧ FirstFailure Fine Fails m e) := by
  induction l with
  | nil => simp [not_firstFailure_nil]
  | cons a l ih =>
    rw [List.cons_append, firstFailure_cons, firstFailure_cons, ih, List.forall_mem_cons]
    tauto

/-- The first failure in groups of entries is the first one in the entries of all
groups. -/
theorem firstFailure_flatten {groups : List (List α)} :
    FirstFailure (fun group => ∀ a ∈ group, Fine a) (FirstFailure Fine Fails) groups e ↔
      FirstFailure Fine Fails groups.flatten e := by
  -- one group after another: groups are put together as lists are
  induction groups with
  | nil => simp [not_firstFailure_nil]
  | cons group rest ih => rw [List.flatten_cons, firstFailure_cons, firstFailure_append, ih]

/-- The first failure among images is that of the first entry whose image fails. -/
theorem firstFailure_map {γ : Type} {f : γ → α} {l : List γ} :
    FirstFailure Fine Fails (l.map f) e ↔
      FirstFailure (fun c => Fine (f c)) (fun c e => Fails (f c) e) l e := by
  induction l with
  | nil => simp [not_firstFailure_nil]
  | cons c l ih => rw [List.map_cons, firstFailure_cons, firstFailure_cons, ih]

end FirstFailure

/-! ## Mapping with failures -/

/-- Mapping succeeds exactly when every entry does, and gives the results in
order. -/
theorem list_mapM_eq_ok_iff {f : α → Except ε β} {l : List α} {m : List β} :
    l.mapM f = .ok m ↔ List.Forall₂ (fun a b => f a = .ok b) l m := by
  -- the results are as many as the entries, and taken apart along with them
  induction l generalizing m with
  | nil =>
    rw [List.mapM_nil, List.forall₂_nil_left_iff]
    simp [pure, Except.pure, eq_comm]
  | cons a rest ih =>
    rw [List.mapM_cons, bind_eq_ok_iff, List.forall₂_cons_left_iff]
    constructor
    · rintro ⟨b, hb, hRest⟩
      obtain ⟨bs, hbs, hEq⟩ := bind_eq_ok_iff.mp hRest
      cases hEq
      exact ⟨b, bs, hb, ih.mp hbs, rfl⟩
    · rintro ⟨b, bs, hb, hbs, rfl⟩
      exact ⟨b, hb, bind_eq_ok_iff.mpr ⟨bs, ih.mpr hbs, rfl⟩⟩

/-- There are results exactly when every entry has one. -/
theorem exists_list_mapM_eq_ok_iff {f : α → Except ε β} {l : List α} :
    (∃ m, l.mapM f = .ok m) ↔ ∀ a ∈ l, ∃ b, f a = .ok b := by
  simp only [list_mapM_eq_ok_iff]
  induction l with
  | nil => exact ⟨fun _ => by simp, fun _ => ⟨[], List.Forall₂.nil⟩⟩
  | cons a rest ih =>
    rw [List.forall_mem_cons, ← ih]
    constructor
    · rintro ⟨m, h⟩
      obtain ⟨b, bs, hb, hbs, rfl⟩ := List.forall₂_cons_left_iff.mp h
      exact ⟨⟨b, hb⟩, bs, hbs⟩
    · rintro ⟨⟨b, hb⟩, bs, hbs⟩
      exact ⟨b :: bs, List.Forall₂.cons hb hbs⟩

/-- Mapping fails exactly when some entry is the first to fail. -/
theorem list_mapM_eq_error_iff {f : α → Except ε β} {l : List α} {e : ε} :
    l.mapM f = .error e ↔
      FirstFailure (fun a => ∃ b, f a = .ok b) (fun a e => f a = .error e) l e := by
  induction l with
  | nil =>
    rw [List.mapM_nil]
    simp [not_firstFailure_nil, pure, Except.pure]
  | cons a rest ih =>
    rw [List.mapM_cons, bind_eq_error_iff, firstFailure_cons, ← ih]
    -- putting the results together cannot fail
    simp only [bind_eq_error_iff, pure, Except.pure, reduceCtorEq, and_false, exists_false,
      or_false, exists_and_right]

/-- A function that cannot fail may be applied to the results one by one or in the
end. -/
theorem list_mapM_map {γ : Type} (f : α → Except ε β) (g : β → γ) (l : List α) :
    (l.mapM fun a => (f a).map g) = (l.mapM f).map (List.map g) := by
  induction l with
  | nil => rfl
  | cons a rest ih =>
    rw [List.mapM_cons, List.mapM_cons, ih]
    cases f a with
    | error e => rfl
    | ok b => cases rest.mapM f <;> rfl

/-- Whatever stands in the second of two related lists is related to something in the
first. -/
theorem exists_mem_left_of_forall₂ {R : α → β → Prop} {l : List α} {m : List β}
    {b : β} (h : List.Forall₂ R l m) (hb : b ∈ m) : ∃ a ∈ l, R a b := by
  induction h with
  | nil => simp at hb
  | cons hHead _ ih =>
    rcases List.mem_cons.mp hb with rfl | hb
    · exact ⟨_, List.mem_cons_self, hHead⟩
    · obtain ⟨a, ha, hR⟩ := ih hb
      exact ⟨a, List.mem_cons_of_mem _ ha, hR⟩

/-- In lists whose entries are judged alike, the first entry that passes has the same
place. -/
theorem findIdx?_eq_of_forall₂ {R : α → β → Prop} {p : α → Bool} {q : β → Bool}
    {l : List α} {m : List β} (h : List.Forall₂ R l m) (hpq : ∀ a b, R a b → p a = q b) :
    l.findIdx? p = m.findIdx? q := by
  induction h with
  | nil => rfl
  | cons hHead _ ih => rw [List.findIdx?_cons, List.findIdx?_cons, hpq _ _ hHead, ih]

/-- Lists whose entries have the same image have the same images. -/
theorem map_eq_of_forall₂ {γ : Type} {R : α → β → Prop} {f : α → γ} {g : β → γ} {l : List α}
    {m : List β} (h : List.Forall₂ R l m) (hEach : ∀ a b, R a b → f a = g b) :
    l.map f = m.map g := by
  induction h with
  | nil => rfl
  | cons hHead _ ih => rw [List.map_cons, List.map_cons, hEach _ _ hHead, ih]

namespace NonEmpty

/-- Mapping succeeds exactly when every entry does, and gives the results in order. -/
theorem mapM_eq_ok_iff {f : α → Except ε β} {l : NonEmpty α} {m : NonEmpty β} :
    l.mapM f = .ok m ↔ List.Forall₂ (fun a b => f a = .ok b) l.toList m.toList := by
  rw [NonEmpty.mapM, bind_eq_ok_iff, toList, toList, List.forall₂_cons]
  constructor
  · rintro ⟨b, hb, hRest⟩
    obtain ⟨bs, hbs, hEq⟩ := bind_eq_ok_iff.mp hRest
    cases hEq
    exact ⟨hb, list_mapM_eq_ok_iff.mp hbs⟩
  · rintro ⟨hb, hbs⟩
    exact ⟨m.head, hb, bind_eq_ok_iff.mpr ⟨m.tail, list_mapM_eq_ok_iff.mpr hbs, rfl⟩⟩

/-- Mapping fails exactly when some entry is the first to fail. -/
theorem mapM_eq_error_iff {f : α → Except ε β} {l : NonEmpty α} {e : ε} :
    l.mapM f = .error e ↔
      FirstFailure (fun a => ∃ b, f a = .ok b) (fun a e => f a = .error e) l.toList e := by
  rw [← list_mapM_eq_error_iff, toList, List.mapM_cons, NonEmpty.mapM, bind_eq_error_iff,
    bind_eq_error_iff]
  -- both put the results together in the end, which cannot fail
  simp only [bind_eq_error_iff, pure, Except.pure, reduceCtorEq, and_false, exists_false, or_false]

/-- A list that is not empty is mapped like a list. -/
theorem list_mapM_toList (f : α → Except ε β) (l : NonEmpty α) :
    l.toList.mapM f = (l.mapM f).map toList := by
  rw [toList, List.mapM_cons, NonEmpty.mapM]
  cases f l.head with
  | error e => rfl
  | ok b => cases l.tail.mapM f <;> rfl

/-- There are results exactly when every entry has one. -/
theorem exists_mapM_eq_ok_iff {f : α → Except ε β} {l : NonEmpty α} :
    (∃ m, l.mapM f = .ok m) ↔ ∀ a ∈ l.toList, ∃ b, f a = .ok b := by
  rw [← exists_list_mapM_eq_ok_iff, list_mapM_toList]
  cases l.mapM f with
  | error e => simp [Except.map]
  | ok m => simp [Except.map]

/-- What is related to one entry is one entry. -/
theorem forall₂_singleton {R : α → β → Prop} {a : α} {m : NonEmpty β} :
    List.Forall₂ R [a] m.toList ↔ ∃ b, R a b ∧ m = ⟨b, []⟩ := by
  constructor
  · intro h
    obtain ⟨b, rest, hR, hRest, hList⟩ := List.forall₂_cons_left_iff.mp h
    rw [List.forall₂_nil_left_iff.mp hRest] at hList
    exact ⟨b, hR, toList_injective hList⟩
  · rintro ⟨b, hR, rfl⟩
    exact List.Forall₂.cons hR List.Forall₂.nil

end NonEmpty

/-! ## Faults known beforehand -/

/-- The value, unless there is a fault. -/
def unlessFault (fault : Option ε) (a : α) : Except ε α :=
  match fault with
  | some e => .error e
  | none => .ok a

@[simp] theorem unlessFault_some (e : ε) (a : α) : unlessFault (some e) a = .error e := rfl

@[simp] theorem unlessFault_none (a : α) : unlessFault (none : Option ε) a = .ok a := rfl

/-- There is a value exactly when there is no fault. -/
theorem unlessFault_eq_ok_iff {fault : Option ε} {a b : α} :
    unlessFault fault a = .ok b ↔ fault = none ∧ a = b := by
  cases fault <;> simp

theorem bind_pure_unlessFault (fault : Option ε) (a : α) (f : α → β) :
    (unlessFault fault a >>= fun a => pure (f a)) = unlessFault fault (f a) := by
  cases fault <;> rfl

theorem map_unlessFault (fault : Option ε) (a : α) (f : α → β) :
    (unlessFault fault a).map f = unlessFault fault (f a) := by
  cases fault <;> rfl

theorem mapError_unlessFault {δ : Type} (fault : Option ε) (a : α) (f : ε → δ) :
    (unlessFault fault a).mapError f = unlessFault (fault.map f) a := by
  cases fault <;> rfl

/-- Where the fault of each entry is known, the first of them is the fault of the
list. -/
theorem list_mapM_unlessFault (fault? : α → Option ε) (f : α → β) (l : List α) :
    (l.mapM fun a => unlessFault (fault? a) (f a)) =
      unlessFault (l.findSome? fault?) (l.map f) := by
  induction l with
  | nil => rfl
  | cons a rest ih =>
    rw [List.mapM_cons, ih, List.findSome?_cons]
    -- the fault of the head comes before those of the rest
    cases fault? a with
    | some e => rfl
    | none => cases rest.findSome? fault? <;> rfl

/-- The first fault is that of an entry before which there is none. -/
theorem findSome?_of_first {fault? : α → Option ε} {before after : List α} {a : α} {e : ε}
    (hBefore : ∀ b ∈ before, fault? b = none) (h : fault? a = some e) :
    (before ++ a :: after).findSome? fault? = some e := by
  rw [List.findSome?_append, List.findSome?_eq_none_iff.mpr hBefore, Option.none_or,
    List.findSome?_cons, h]

/-- When no other entry has a fault, the fault of the list is that of the entry. -/
theorem findSome?_of_only {fault? : α → Option ε} {l : List α} {a : α} (hMem : a ∈ l)
    (h : ∀ b ∈ l, b ≠ a → fault? b = none) : l.findSome? fault? = fault? a := by
  cases hFault : fault? a with
  | none =>
    refine List.findSome?_eq_none_iff.mpr fun b hb => ?_
    by_cases hEq : b = a
    · rw [hEq, hFault]
    · exact h b hb hEq
  | some e =>
    -- before the first occurrence of the entry there are only others
    obtain ⟨before, after, rfl, hNot⟩ := List.eq_append_cons_of_mem hMem
    refine findSome?_of_first (fun b hb => ?_) hFault
    exact h b (List.mem_append_left _ hb) fun hEq => hNot (hEq ▸ hb)

/-- The first fault in groups is the first one in the entries of all groups. -/
theorem findSome?_flatMap {γ : Type} (fault? : α → Option ε) (entries : γ → List α)
    (groups : List γ) :
    (groups.flatMap entries).findSome? fault? =
      groups.findSome? fun group => (entries group).findSome? fault? := by
  induction groups with
  | nil => rfl
  | cons group rest ih =>
    rw [List.flatMap_cons, List.findSome?_append, List.findSome?_cons, ih]
    cases (entries group).findSome? fault? <;> rfl

end TicketTrail
