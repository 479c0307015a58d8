/-!
# Non-empty lists

A list with at least one entry, for the groups of a pattern: a pattern has at least one condition
and a pattern set at least one pattern.
-/

namespace TicketTrail

/-- A list with a first entry. -/
structure NonEmpty (α : Type) where
  head : α
  tail : List α
deriving Repr, DecidableEq

namespace NonEmpty

variable {α β : Type}

/-- All entries, the first one first. -/
def toList (l : NonEmpty α) : List α :=
  l.head :: l.tail

/-- The list with the given entries, unless there are none. -/
def ofList? : List α → Option (NonEmpty α)
  | [] => none
  | a :: rest => some ⟨a, rest⟩

/-- Applies a function to every entry. -/
def map (f : α → β) (l : NonEmpty α) : NonEmpty β :=
  ⟨f l.head, l.tail.map f⟩

/-- Applies a function that may fail to every entry, in order; the first failure is the answer. -/
def mapM {ε : Type} (f : α → Except ε β) (l : NonEmpty α) : Except ε (NonEmpty β) := do
  let head ← f l.head
  let tail ← l.tail.mapM f
  return ⟨head, tail⟩

@[simp] theorem toList_mk (a : α) (l : List α) : (NonEmpty.mk a l).toList = a :: l := rfl

theorem toList_ne_nil (l : NonEmpty α) : l.toList ≠ [] := by
  simp [toList]

@[simp] theorem toList_map (f : α → β) (l : NonEmpty α) : (l.map f).toList = l.toList.map f := rfl

@[simp] theorem ofList?_toList (l : NonEmpty α) : ofList? l.toList = some l := rfl

theorem ofList?_eq_some_iff {l : List α} {ne : NonEmpty α} :
    ofList? l = some ne ↔ l = ne.toList := by
  cases l with
  | nil => simp [ofList?, toList]
  | cons a rest =>
    cases ne
    simp [ofList?, toList]

theorem ofList?_eq_none_iff {l : List α} : ofList? l = none ↔ l = [] := by
  cases l <;> simp [ofList?]

theorem toList_injective {l m : NonEmpty α} (h : l.toList = m.toList) : l = m := by
  cases l
  cases m
  simpa [toList] using h

end NonEmpty

end TicketTrail
