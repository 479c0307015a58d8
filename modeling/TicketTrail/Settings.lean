import TicketTrail.Text.Blank
import TicketTrail.Text.Lowercase

/-!
# Settings

What the settings file can say: the output format, the snapshot to search, and orders for statuses
and priorities. An order that would rank one name twice is refused, and so is one with a blank name.

## Main results

* `firstFault?_eq_none_iff` — an order is accepted exactly when no name is blank and no two names
  are the same up to case.
-/

namespace TicketTrail

/-- How results are printed. -/
inductive OutputFormat where
  | text
  | json
deriving Repr, DecidableEq, Inhabited

/-- The user's settings. -/
structure Settings where
  defaultFormat : OutputFormat := .text
  /-- The snapshot file to search when none is named otherwise. -/
  snapshot : Option String := none
  /-- Status names in workflow order, for a tracker that does not list its statuses. -/
  statusOrder : List String := []
  /-- Priority names, most urgent first, in place of the built-in ones. -/
  priorityOrder : List String := []
deriving Repr, DecidableEq, Inhabited

/-- What is wrong with an order of names. -/
inductive OrderFault where
  | emptyName
  | listedTwice (name : String)
deriving Repr, DecidableEq

/-- What is wrong with an order that comes after names with the keys in `seen`: the first name that
is blank or was listed before. -/
def firstFaultAfter? (seen : List String) : List String → Option OrderFault
  | [] => none
  | name :: rest =>
    if Text.allBlank name then some .emptyName
    else if seen.contains (Text.lower name) then some (.listedTwice name)
    else firstFaultAfter? (Text.lower name :: seen) rest

/-- What is wrong with an order: the first name that is blank or was listed before. -/
def firstFault? (order : List String) : Option OrderFault :=
  firstFaultAfter? [] order

/-- Why settings are refused. -/
inductive SettingsError where
  /-- The file cannot be read. -/
  | unreadable (path reason : String)
  /-- The file is not in the form of a settings file. -/
  | malformed (reason : String)
  /-- The order that the key names is at fault. -/
  | invalid (key : String) (fault : OrderFault)
deriving Repr, DecidableEq

/-- The error as it is told. -/
def SettingsError.message : SettingsError → String
  | unreadable path reason => "Failed to read config: " ++ path ++ ": " ++ reason
  | malformed reason => "Failed to parse config: Failed to parse configuration: " ++ reason
  | invalid key .emptyName => "Invalid configuration: " ++ key ++ " contains an empty name"
  | invalid key (.listedTwice name) =>
    "Invalid configuration: " ++ key ++ " lists '" ++ name ++ "' twice"

/-- Refuses settings with a faulty order; the order of the statuses is looked at first. -/
def Settings.validate (settings : Settings) : Except SettingsError Settings :=
  match firstFault? settings.statusOrder with
  | some fault => .error (.invalid "status_order" fault)
  | none =>
    match firstFault? settings.priorityOrder with
    | some fault => .error (.invalid "priority_order" fault)
    | none => .ok settings

theorem firstFaultAfter?_eq_none_iff {seen order : List String} :
    firstFaultAfter? seen order = none ↔
      (∀ name ∈ order, Text.allBlank name = false) ∧
        (order.map Text.lower).Pairwise (· ≠ ·) ∧ ∀ name ∈ order, Text.lower name ∉ seen := by
  induction order generalizing seen with
  | nil => simp [firstFaultAfter?]
  | cons name rest ih =>
    unfold firstFaultAfter?
    split
    · next h => simp [h]
    · split
      · next h => simp_all
      · next hBlank hSeen =>
        rw [ih]
        simp only [List.mem_cons, forall_eq_or_imp, List.map_cons, List.pairwise_cons,
          List.mem_map, forall_exists_index, and_imp, forall_apply_eq_imp_iff₂, not_or]
        simp only [Bool.not_eq_true, List.contains_eq_mem, decide_eq_false_iff_not] at hBlank hSeen
        constructor
        · rintro ⟨h₁, h₂, h₃⟩
          exact ⟨⟨hBlank, h₁⟩, ⟨fun a ha => (h₃ a ha).1 ∘ Eq.symm, h₂⟩, hSeen,
            fun a ha => (h₃ a ha).2⟩
        · rintro ⟨⟨_, h₁⟩, ⟨h₂, h₃⟩, _, h₄⟩
          exact ⟨h₁, h₃, fun a ha => ⟨h₂ a ha ∘ Eq.symm, h₄ a ha⟩⟩

/-- An order is accepted exactly when no name is blank and no two names are the same up to case. -/
theorem firstFault?_eq_none_iff {order : List String} :
    firstFault? order = none ↔
      (∀ name ∈ order, Text.allBlank name = false) ∧ (order.map Text.lower).Pairwise (· ≠ ·) := by
  simp [firstFault?, firstFaultAfter?_eq_none_iff]

end TicketTrail
