/-!
# Sorted texts

Sets of strings as lists in strictly increasing order. The order is that of the code points, which
is also the order of the encoded bytes.

## Main results

* `mem_sortedSet` — a sorted set holds exactly the strings it is made of;
* `sortedSet_pairwise` — it holds each of them once, in order.
-/

namespace TicketTrail.Text

/-- Puts a string into a sorted set. -/
def insertSorted (s : String) : List String → List String
  | [] => [s]
  | t :: rest =>
    if s < t then s :: t :: rest
    else if s = t then t :: rest
    else t :: insertSorted s rest

/-- The sorted set of the strings in a list. -/
def sortedSet (l : List String) : List String :=
  l.foldl (fun set s => insertSorted s set) []

theorem mem_insertSorted {s x : String} {l : List String} :
    x ∈ insertSorted s l ↔ x = s ∨ x ∈ l := by
  induction l with
  | nil => simp [insertSorted]
  | cons t rest ih =>
    unfold insertSorted
    split
    · simp
    · split
      · next h => simp [h]
      · simp [ih, or_left_comm]

theorem mem_foldl_insertSorted {x : String} {l set : List String} :
    x ∈ l.foldl (fun set s => insertSorted s set) set ↔ x ∈ l ∨ x ∈ set := by
  induction l generalizing set with
  | nil => simp
  | cons s rest ih => simp [ih, mem_insertSorted, or_assoc, or_left_comm]

/-- A sorted set holds exactly the strings it is made of. -/
@[simp] theorem mem_sortedSet {x : String} {l : List String} : x ∈ sortedSet l ↔ x ∈ l := by
  simp [sortedSet, mem_foldl_insertSorted]

theorem lt_of_not_lt_of_ne {a b : String} (h : ¬ a < b) (hNe : a ≠ b) : b < a :=
  Std.lt_of_le_of_ne (String.not_lt.mp h) hNe.symm

theorem insertSorted_pairwise {s : String} {l : List String} (h : l.Pairwise (· < ·)) :
    (insertSorted s l).Pairwise (· < ·) := by
  induction l with
  | nil => simp [insertSorted]
  | cons t rest ih =>
    have hTail := List.pairwise_cons.mp h
    unfold insertSorted
    split
    · next hLt =>
      refine List.pairwise_cons.mpr ⟨fun x hx => ?_, h⟩
      rcases List.mem_cons.mp hx with rfl | hx
      · exact hLt
      · exact String.lt_trans hLt (hTail.1 x hx)
    · split
      · exact h
      · next hNotLt hNe =>
        refine List.pairwise_cons.mpr ⟨fun x hx => ?_, ih hTail.2⟩
        rcases mem_insertSorted.mp hx with rfl | hx
        · exact lt_of_not_lt_of_ne hNotLt hNe
        · exact hTail.1 x hx

theorem foldl_insertSorted_pairwise {l set : List String} (h : set.Pairwise (· < ·)) :
    (l.foldl (fun set s => insertSorted s set) set).Pairwise (· < ·) := by
  induction l generalizing set with
  | nil => exact h
  | cons s rest ih => exact ih (insertSorted_pairwise h)

/-- A sorted set holds each of its strings once, in order. -/
theorem sortedSet_pairwise (l : List String) : (sortedSet l).Pairwise (· < ·) :=
  foldl_insertSorted_pairwise List.Pairwise.nil

end TicketTrail.Text
