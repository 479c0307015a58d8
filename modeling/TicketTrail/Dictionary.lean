import TicketTrail.Text.Sorted

/-!
# Dictionaries

A dictionary from strings, with its entries in strictly increasing order of their keys. Of two
entries for one key the later one counts.

## Main results

* `get?_insert` — what an insertion does to looking up;
* `ofList_entries` — a dictionary is made of its own entries.
-/

namespace TicketTrail

/-- Entries in strictly increasing order of their keys. -/
structure Dictionary (α : Type) where
  entries : List (String × α)
  sorted : entries.Pairwise fun a b => a.1 < b.1
deriving Repr, DecidableEq

namespace Dictionary

variable {α : Type}

/-- The dictionary without entries. -/
def empty : Dictionary α := ⟨[], List.Pairwise.nil⟩

instance : Inhabited (Dictionary α) := ⟨empty⟩

/-- The value of a key. -/
def get? (d : Dictionary α) (key : String) : Option α :=
  d.entries.lookup key

/-- The keys, in order. -/
def keys (d : Dictionary α) : List String :=
  d.entries.map Prod.fst

/-- Puts an entry into sorted entries, in the place of the one with its key if there is one. -/
def insertEntry (key : String) (value : α) : List (String × α) → List (String × α)
  | [] => [(key, value)]
  | entry :: rest =>
    if key < entry.1 then (key, value) :: entry :: rest
    else if key = entry.1 then (key, value) :: rest
    else entry :: insertEntry key value rest

theorem mem_insertEntry {key : String} {value : α} {entries : List (String × α)}
    {entry : String × α} (h : entry ∈ insertEntry key value entries) :
    entry.1 = key ∨ entry ∈ entries := by
  induction entries with
  | nil =>
    simp only [insertEntry, List.mem_singleton] at h
    simp [h]
  | cons e rest ih =>
    unfold insertEntry at h
    split at h
    · rcases List.mem_cons.mp h with rfl | h
      · exact Or.inl rfl
      · exact Or.inr h
    · split at h
      · rcases List.mem_cons.mp h with rfl | h
        · exact Or.inl rfl
        · exact Or.inr (List.mem_cons_of_mem _ h)
      · rcases List.mem_cons.mp h with rfl | h
        · exact Or.inr List.mem_cons_self
        · rcases ih h with h | h
          · exact Or.inl h
          · exact Or.inr (List.mem_cons_of_mem _ h)

theorem insertEntry_sorted {key : String} {value : α} {entries : List (String × α)}
    (h : entries.Pairwise fun a b => a.1 < b.1) :
    (insertEntry key value entries).Pairwise fun a b => a.1 < b.1 := by
  induction entries with
  | nil => simp [insertEntry]
  | cons e rest ih =>
    have hTail := List.pairwise_cons.mp h
    unfold insertEntry
    split
    · next hLt =>
      refine List.pairwise_cons.mpr ⟨fun x hx => ?_, h⟩
      rcases List.mem_cons.mp hx with rfl | hx
      · exact hLt
      · exact String.lt_trans hLt (hTail.1 x hx)
    · split
      · next hEq =>
        refine List.pairwise_cons.mpr ⟨fun x hx => ?_, hTail.2⟩
        have := hTail.1 x hx
        rwa [← hEq] at this
      · next hNotLt hNe =>
        refine List.pairwise_cons.mpr ⟨fun x hx => ?_, ih hTail.2⟩
        rcases mem_insertEntry hx with hx | hx
        · rw [hx]
          exact Text.lt_of_not_lt_of_ne hNotLt hNe
        · exact hTail.1 x hx

/-- Gives a key a value. -/
def insert (d : Dictionary α) (key : String) (value : α) : Dictionary α :=
  ⟨insertEntry key value d.entries, insertEntry_sorted d.sorted⟩

/-- The dictionary of the given entries; of two entries for one key the later one counts. -/
def ofList (entries : List (String × α)) : Dictionary α :=
  entries.foldl (fun d entry => d.insert entry.1 entry.2) empty

/-! ## Looking up -/

theorem ext {d e : Dictionary α} (h : d.entries = e.entries) : d = e := by
  cases d
  cases e
  simp_all

theorem lookup_cons_eq (key : String) (entry : String × α) (rest : List (String × α)) :
    List.lookup key (entry :: rest) = if key = entry.1 then some entry.2 else rest.lookup key := by
  rw [List.lookup_cons]
  by_cases h : key = entry.1
  · simp [h]
  · simp [h, beq_eq_false_iff_ne.mpr h]

/-- A key that was given a value has that value; all other keys keep theirs. -/
theorem get?_insert (d : Dictionary α) (key other : String) (value : α) :
    (d.insert key value).get? other = if other = key then some value else d.get? other := by
  simp only [get?, insert]
  induction d.entries with
  | nil => rw [insertEntry, lookup_cons_eq]
  | cons e rest ih =>
    unfold insertEntry
    split
    · rw [lookup_cons_eq]
    · split
      · next hEq =>
        rw [lookup_cons_eq, lookup_cons_eq, ← hEq]
        split <;> rfl
      · next hNe =>
        rw [lookup_cons_eq, lookup_cons_eq, ih]
        by_cases h : other = e.1
        · have : ¬ other = key := fun hEq => hNe (by rw [← hEq, h])
          rw [if_pos h, if_neg this, if_pos h]
        · simp [h]

theorem insertEntry_of_forall_lt {key : String} {value : α} {entries : List (String × α)}
    (h : ∀ entry ∈ entries, entry.1 < key) :
    insertEntry key value entries = entries ++ [(key, value)] := by
  induction entries with
  | nil => rfl
  | cons e rest ih =>
    have hHead := h e List.mem_cons_self
    have hNotLt : ¬ key < e.1 := fun hLt => String.lt_irrefl _ (String.lt_trans hHead hLt)
    have hNe : ¬ key = e.1 := fun hEq => String.lt_irrefl e.1 (by rwa [hEq] at hHead)
    rw [insertEntry, if_neg hNotLt, if_neg hNe,
      ih fun entry hEntry => h entry (List.mem_cons_of_mem _ hEntry), List.cons_append]

theorem entries_foldl_insert (d : Dictionary α) (entries : List (String × α))
    (h : (d.entries ++ entries).Pairwise fun a b => a.1 < b.1) :
    (entries.foldl (fun d entry => d.insert entry.1 entry.2) d).entries =
      d.entries ++ entries := by
  induction entries generalizing d with
  | nil => simp
  | cons e rest ih =>
    have hAll : ∀ entry ∈ d.entries, entry.1 < e.1 := fun entry hEntry =>
      (List.pairwise_append.mp h).2.2 entry hEntry e List.mem_cons_self
    have hInsert : (d.insert e.1 e.2).entries = d.entries ++ [e] :=
      insertEntry_of_forall_lt hAll
    rw [List.foldl_cons, ih (d.insert e.1 e.2) (by simpa [hInsert] using h), hInsert]
    simp

/-- A dictionary is made of its own entries. -/
theorem ofList_entries (d : Dictionary α) : ofList d.entries = d :=
  ext (by simpa [ofList, empty] using
    entries_foldl_insert empty d.entries (by simpa [empty] using d.sorted))

end Dictionary

end TicketTrail
