import Mathlib.Data.List.Induction
import Mathlib.Data.List.Nodup
import TicketTrail.Scale.RankTable

/-!
# Ranks by position

A rank table of an order is filled by going through the order: each name writes its position
under its key, over what an earlier name has written there. So a name has the rank of the last
position at which it is listed, under whatever spelling the rule does not tell apart, and an order
that lists no name twice loses none of its positions.

Main results:

* `RankTable.rank?_ofOrder_concat` — what one more name does to the table;
* `RankTable.rank?_ofOrder_eq_some_iff`, `RankTable.rank?_ofOrder_eq_none_iff` — the table of a
  whole order;
* `RankTable.rank?_ofOrder_append_lt` — names at the front of an order and names at its back;
* `RankTable.rank?_ofOrder_of_nodup`, `RankTable.size_ofOrder_of_nodup` — orders that list no name
  twice.
-/

namespace TicketTrail

/-- The position is the last one at which the order lists the name. -/
structure NameRule.IsLast (rule : NameRule) (order : List String) (name : String)
    (position : Nat) : Prop where
  listed : ∃ listed ∈ order[position]?, rule.key listed = rule.key name
  last : ∀ i, ∀ listed ∈ order[i]?, rule.key listed = rule.key name → i ≤ position

namespace NameRule.IsLast

variable {rule : NameRule} {order front back : List String} {name listed : String} {position : Nat}

theorem lt_length (h : rule.IsLast order name position) : position < order.length := by
  obtain ⟨listed, hListed, -⟩ := h.listed
  exact (List.getElem?_eq_some_iff.mp hListed).1

/-- One more name at the end is the last one, if it is the same. -/
theorem concat_of_same (h : rule.key listed = rule.key name) :
    rule.IsLast (order ++ [listed]) name position ↔ position = order.length := by
  have hEnd : (order ++ [listed])[order.length]? = some listed := List.getElem?_concat_length
  constructor
  · intro hLast
    -- the position at the end is no later than the last one, and there is none after it
    have hLower := hLast.last order.length listed hEnd h
    have hUpper := hLast.lt_length
    rw [List.length_append, List.length_singleton] at hUpper
    omega
  · rintro rfl
    refine ⟨⟨listed, hEnd, h⟩, fun i other hOther _ => ?_⟩
    have hi := (List.getElem?_eq_some_iff.mp hOther).1
    rw [List.length_append, List.length_singleton] at hi
    omega

/-- Another name at the end changes nothing. -/
theorem concat_of_ne (h : rule.key listed ≠ rule.key name) :
    rule.IsLast (order ++ [listed]) name position ↔ rule.IsLast order name position := by
  -- both lists have the same entries with the name's key
  have hSame : ∀ (i : Nat) other, rule.key other = rule.key name →
      ((order ++ [listed])[i]? = some other ↔ order[i]? = some other) := by
    intro i other hKey
    rw [List.getElem?_append]
    split
    · rfl
    · next hi =>
      have hBeyond : order[i]? = none := List.getElem?_eq_none (Nat.le_of_not_lt hi)
      rw [hBeyond]
      refine iff_of_false (fun hOther => ?_) (by simp)
      have hEntry : other = listed := by
        simpa using List.mem_of_getElem? hOther
      exact h (hEntry ▸ hKey)
  constructor
  · rintro ⟨⟨other, hOther, hKey⟩, hLast⟩
    exact ⟨⟨other, (hSame _ _ hKey).mp hOther, hKey⟩,
      fun i next hNext hNextKey => hLast i next ((hSame _ _ hNextKey).mpr hNext) hNextKey⟩
  · rintro ⟨⟨other, hOther, hKey⟩, hLast⟩
    exact ⟨⟨other, (hSame _ _ hKey).mpr hOther, hKey⟩,
      fun i next hNext hNextKey => hLast i next ((hSame _ _ hNextKey).mp hNext) hNextKey⟩

/-- In an order that lists no name twice every position is the last one of its name. -/
theorem of_nodup (hNodup : (order.map rule.key).Nodup) (h : order[position]? = some name) :
    rule.IsLast order name position := by
  refine ⟨⟨name, h, rfl⟩, fun i listed hListed hKey => ?_⟩
  have hPosition : (order.map rule.key)[position]? = some (rule.key name) := by
    rw [List.getElem?_map, h, Option.map_some]
  have hOther : (order.map rule.key)[i]? = some (rule.key name) := by
    rw [List.getElem?_map, hListed, Option.map_some, hKey]
  have hi := (List.getElem?_eq_some_iff.mp hOther).1
  -- two positions with one key are the same position
  exact Nat.le_of_eq ((List.getElem?_inj hi hNodup).mp (hOther.trans hPosition.symm))

/-- A name that is not listed at the back has its last position at the front. -/
theorem lt_of_front (h : rule.IsLast (front ++ back) name position)
    (hBack : ∀ listed ∈ back, rule.key listed ≠ rule.key name) : position < front.length := by
  obtain ⟨listed, hListed, hKey⟩ := h.listed
  -- otherwise it would be listed at the back
  by_contra hBeyond
  have hPlace : back[position - front.length]? = some listed := by
    rw [← List.getElem?_append_right (Nat.le_of_not_lt hBeyond)]
    exact hListed
  exact hBack listed (List.mem_of_getElem? hPlace) hKey

/-- A name that is listed at the back has its last position there. -/
theorem le_of_back (h : rule.IsLast (front ++ back) name position) (hListed : listed ∈ back)
    (hKey : rule.key listed = rule.key name) : front.length ≤ position := by
  obtain ⟨i, hPlace⟩ := List.mem_iff_getElem?.mp hListed
  -- the last position is no earlier than any at which the name is listed
  have hLast : front.length + i ≤ position := by
    refine h.last _ listed ?_ hKey
    rw [List.getElem?_append_right (Nat.le_add_right _ _), Nat.add_sub_cancel_left]
    exact hPlace
  omega

end NameRule.IsLast

namespace RankTable

variable {rule : NameRule} {order : List String} {name : String}

theorem ne_empty_of_rank? {table : RankTable} {rank : Int} (h : table.rank? name = some rank) :
    name ≠ "" := by
  rintro rfl
  cases h

/-- One more name writes its position over what stood under its key. -/
theorem rank?_ofOrder_concat (listed : String) (h : name ≠ "") :
    (ofOrder rule (order ++ [listed])).rank? name =
      if rule.key listed = rule.key name then some (order.length : Int)
      else (ofOrder rule order).rank? name := by
  -- a table is searched from its end, so the new name is looked at first
  rw [ofOrder, ofOrder, rank?_ofPairs h, rank?_ofPairs h, List.mapIdx_concat,
    List.reverse_append, List.reverse_singleton, List.singleton_append, List.find?_cons]
  by_cases hKey : rule.key listed = rule.key name
  · rw [if_pos hKey, NameRule.same_iff.mpr hKey]
    rfl
  · rw [if_neg hKey, Bool.eq_false_iff.mpr (NameRule.same_iff.not.mpr hKey)]

/-- A name has the last position at which the order lists it. -/
theorem rank?_ofOrder_eq_some_iff (h : name ≠ "") {rank : Int} :
    (ofOrder rule order).rank? name = some rank ↔
      ∃ position : Nat, rank = position ∧ rule.IsLast order name position := by
  -- the table is filled from the front, so the order is taken apart at its end
  induction order using List.reverseRecOn with
  | nil =>
    refine iff_of_false ?_ ?_
    · simp [ofOrder, rank?_ofPairs h]
    · rintro ⟨position, -, hLast⟩
      simpa using hLast.lt_length
  | append_singleton order listed ih =>
    rw [rank?_ofOrder_concat listed h]
    by_cases hKey : rule.key listed = rule.key name
    · rw [if_pos hKey, Option.some.injEq]
      simp only [NameRule.IsLast.concat_of_same hKey, exists_eq_right]
      exact eq_comm
    · rw [if_neg hKey, ih]
      simp only [NameRule.IsLast.concat_of_ne hKey]

/-- A name has no rank when the order does not list it. -/
theorem rank?_ofOrder_eq_none_iff (h : name ≠ "") :
    (ofOrder rule order).rank? name = none ↔
      ∀ listed ∈ order, rule.key listed ≠ rule.key name := by
  induction order using List.reverseRecOn with
  | nil => simp [ofOrder, rank?_ofPairs h]
  | append_singleton order listed ih =>
    rw [rank?_ofOrder_concat listed h, List.forall_mem_append, List.forall_mem_singleton, ← ih]
    by_cases hKey : rule.key listed = rule.key name
    · simp [hKey]
    · simp [hKey]

/-- A name that is listed has a rank. -/
theorem exists_rank?_ofOrder (hListed : name ∈ order) (h : name ≠ "") :
    ∃ rank, (ofOrder rule order).rank? name = some rank :=
  Option.ne_none_iff_exists'.mp fun hNone => (rank?_ofOrder_eq_none_iff h).mp hNone name hListed rfl

/-- Names that are listed at the front only rank below those at the back. -/
theorem rank?_ofOrder_append_lt {front back : List String} {a b : String} {i j : Int}
    (hFront : ∀ listed ∈ back, rule.key listed ≠ rule.key a) (hBack : b ∈ back)
    (ha : (ofOrder rule (front ++ back)).rank? a = some i)
    (hb : (ofOrder rule (front ++ back)).rank? b = some j) : i < j := by
  obtain ⟨p, rfl, hFirst⟩ := (rank?_ofOrder_eq_some_iff (ne_empty_of_rank? ha)).mp ha
  obtain ⟨q, rfl, hSecond⟩ := (rank?_ofOrder_eq_some_iff (ne_empty_of_rank? hb)).mp hb
  have hp := hFirst.lt_of_front hFront
  have hq := hSecond.le_of_back hBack rfl
  omega

/-- Without a name listed twice each name has its own position. -/
theorem rank?_ofOrder_of_nodup (hNodup : (order.map rule.key).Nodup) (hName : name ≠ "")
    {position : Nat} (h : order[position]? = some name) :
    (ofOrder rule order).rank? name = some (position : Int) :=
  (rank?_ofOrder_eq_some_iff hName).mpr ⟨position, rfl, .of_nodup hNodup h⟩

/-- The table has the keys of the order, the last one first. -/
theorem keys_ofOrder :
    (ofOrder rule order).entries.map Prod.fst = (order.map rule.key).reverse := by
  rw [ofOrder, ofPairs, List.map_reverse, List.map_map]
  congr 1
  refine List.ext_getElem? fun i => ?_
  simp [List.getElem?_mapIdx, Function.comp_def]

/-- Where nothing repeats nothing is erased. -/
theorem eraseDups_of_nodup {α : Type} [BEq α] [LawfulBEq α] {l : List α} (h : l.Nodup) :
    l.eraseDups = l := by
  -- the head stays and takes nothing from the rest with it
  induction l with
  | nil => rfl
  | cons a rest ih =>
    obtain ⟨hHead, hRest⟩ := List.nodup_cons.mp h
    have hOthers : rest.filter (fun b => !b == a) = rest := by
      refine List.filter_eq_self.mpr fun b hb => ?_
      have hNe : b ≠ a := fun hEq => hHead (hEq ▸ hb)
      simpa using hNe
    rw [List.eraseDups_cons, hOthers, ih hRest]

/-- Without a name listed twice the table has as many names as the order. -/
theorem size_ofOrder_of_nodup (hNodup : (order.map rule.key).Nodup) :
    (ofOrder rule order).size = order.length := by
  rw [size, keys_ofOrder, eraseDups_of_nodup (List.nodup_reverse.mpr hNodup), List.length_reverse,
    List.length_map]

end RankTable

end TicketTrail
