import TicketTrail.Scale.NameRule

/-!
# Rank tables

A rank table gives ranks to the names of states. It is filled from a list of names and ranks; a name
listed twice keeps its last rank, and the empty name has no rank.

## Main results

* `rank?_ofPairs` — a name has the rank of the last listed pair that its rule identifies it with;
* `rank?_eq_of_same` — names that the rule identifies have the same rank.
-/

namespace TicketTrail

/-- Ranks by key. The pair that was listed last comes first. -/
structure RankTable where
  rule : NameRule
  entries : List (String × Int)
deriving Repr, DecidableEq

namespace RankTable

/-- The table that ranks nothing. -/
def empty (rule : NameRule) : RankTable :=
  ⟨rule, []⟩

/-- The table of the given names and ranks; of two pairs for one name the later one counts. -/
def ofPairs (rule : NameRule) (pairs : List (String × Int)) : RankTable :=
  ⟨rule, (pairs.map fun (name, rank) => (rule.key name, rank)).reverse⟩

/-- Ranks each name by its position; a name listed twice has its last position. -/
def ofOrder (rule : NameRule) (names : List String) : RankTable :=
  ofPairs rule (names.mapIdx fun position name => (name, (position : Int)))

/-- The rank of a name, unless it is empty or unknown. -/
def rank? (table : RankTable) (name : String) : Option Int :=
  if name.isEmpty then none else table.entries.lookup (table.rule.key name)

/-- The number of different names that are ranked. -/
def size (table : RankTable) : Nat :=
  (table.entries.map Prod.fst).eraseDups.length

/-- No name is ranked. -/
def isEmpty (table : RankTable) : Bool :=
  table.entries.isEmpty

/-- The priorities, most urgent first. -/
def priorityOrder : List String :=
  ["unbreak now!", "triage", "high", "normal", "low", "wishlist"]

/-- The statuses in workflow order, for a tracker that does not list its own. -/
def statusOrder : List String :=
  ["open", "blocked", "wontfix", "invalid", "duplicate", "resolved"]

/-- The built-in ranking of priorities: 0 is the most urgent. -/
def builtinPriority : RankTable :=
  ofOrder .ignoreCase priorityOrder

/-- The ranking of statuses for a tracker that does not list its own. -/
def fallbackStatus : RankTable :=
  ofOrder .ignoreCase statusOrder

/-! ## Looking up -/

@[simp] theorem rank?_empty (rule : NameRule) (name : String) :
    (empty rule).rank? name = none := by
  simp [rank?, empty]

@[simp] theorem rule_ofPairs (rule : NameRule) (pairs : List (String × Int)) :
    (ofPairs rule pairs).rule = rule := rfl

@[simp] theorem rule_ofOrder (rule : NameRule) (names : List String) :
    (ofOrder rule names).rule = rule := rfl

/-- Names that the rule identifies have the same rank. -/
theorem rank?_eq_of_same {table : RankTable} {a b : String} (h : table.rule.same a b = true) :
    table.rank? a = table.rank? b := by
  have hKey := NameRule.same_iff.mp h
  have hEmpty : a.isEmpty = b.isEmpty := by
    rw [Bool.eq_iff_iff, String.isEmpty_iff, String.isEmpty_iff,
      ← @NameRule.key_eq_empty_iff table.rule, hKey, NameRule.key_eq_empty_iff]
  simp [rank?, hKey, hEmpty]

/-- A name has the rank of the last listed pair whose name the rule identifies with it. -/
theorem rank?_ofPairs {rule : NameRule} {pairs : List (String × Int)} {name : String}
    (h : name ≠ "") :
    (ofPairs rule pairs).rank? name =
      (pairs.reverse.find? fun pair => rule.same pair.1 name).map Prod.snd := by
  have hNotEmpty : name.isEmpty = false := by simpa [String.isEmpty_iff] using h
  simp only [rank?, hNotEmpty, ofPairs, ← List.map_reverse]
  induction pairs.reverse with
  | nil => simp
  | cons pair rest ih =>
    by_cases hSame : rule.key name = rule.key pair.1
    · simp [NameRule.same, hSame]
    · have hSame' : ¬ rule.key pair.1 = rule.key name := fun hEq => hSame hEq.symm
      simpa [List.lookup_cons, NameRule.same, hSame, hSame', beq_eq_false_iff_ne.mpr] using ih

end RankTable

end TicketTrail
