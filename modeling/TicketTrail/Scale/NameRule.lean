import TicketTrail.Text.Lowercase

/-!
# Name rules

Column names come from a live board and are compared exactly; the names of priorities and statuses
are compared without regard to case. A rule folds a name to a key, and two names are the same state
when their keys are equal.
-/

namespace TicketTrail

/-- How the names of states are compared. -/
inductive NameRule where
  | exact
  | ignoreCase
deriving Repr, DecidableEq

namespace NameRule

/-- The key a name is folded to. -/
def key : NameRule → String → String
  | exact, name => name
  | ignoreCase, name => Text.lower name

/-- The two names are the same state. -/
def same (rule : NameRule) (a b : String) : Bool :=
  rule.key a == rule.key b

theorem same_iff {rule : NameRule} {a b : String} :
    rule.same a b = true ↔ rule.key a = rule.key b := by
  simp [same]

theorem same_comm (rule : NameRule) (a b : String) : rule.same a b = rule.same b a := by
  simp [same, Bool.beq_comm (a := rule.key a)]

/-- Only the empty name is folded to the empty key. -/
theorem key_eq_empty_iff {rule : NameRule} {name : String} : rule.key name = "" ↔ name = "" := by
  cases rule with
  | exact => rfl
  | ignoreCase =>
    simp only [key, Text.lower, ← String.toList_inj, String.toList_ofList]
    simp [Text.lowerChars_eq_nil_iff]

end NameRule

end TicketTrail
