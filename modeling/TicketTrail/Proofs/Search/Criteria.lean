import TicketTrail.Proofs.FirstFailure
import TicketTrail.Search.Plan

/-!
# Reading criteria

The criteria of a search are read one after another, and the first that cannot be
read is reported. Each of them is faulty or not by itself, so what reading comes to
is said by two tables: one of faults, in the order in which they are looked for
(`Criteria.faults`), and one of what the criteria say where they can be read
(`Criteria.filters`).

Main results:

* `Filters.parse_eq` — filters are read unless there is a fault;
* `Plan.ofCriteria_eq` — and so are plans, of which an empty one is at fault too.
-/

namespace TicketTrail

/-! ## Faults of optional texts -/

section Faults

variable {ε δ α : Type}

/-- Why there is no result. -/
def fault? : Except ε α → Option ε
  | .error e => some e
  | .ok _ => none

/-- Renaming what is wrong renames the fault. -/
theorem fault?_mapError (x : Except ε α) (f : ε → δ) :
    fault? (x.mapError f) = (fault? x).map f := by
  cases x <;> rfl

theorem fault?_map {β : Type} (x : Except ε α) (f : α → β) : fault? (x.map f) = fault? x := by
  cases x <;> rfl

theorem toOption_mapError (x : Except ε α) (f : ε → δ) : (x.mapError f).toOption = x.toOption := by
  cases x <;> rfl

/-- A text that need not be there is at fault when it is there and cannot be read. -/
theorem option_mapM_eq (read : String → Except ε α) (text : Option String) :
    text.mapM read =
      unlessFault (text.bind fun s => fault? (read s)) (text.bind fun s => (read s).toOption) := by
  cases text with
  | none => rfl
  | some s =>
    rw [Option.mapM_some, Option.bind_some, Option.bind_some]
    cases read s <;> rfl

end Faults

/-! ## The two tables -/

namespace Criteria

variable (c : Criteria)

/-- What is wrong with the tag. The tag `*` is not read, and blanks around a tag do
not matter. -/
def tagFault? : Option CriteriaError :=
  c.tag.bind fun text =>
    if Text.trim text = "*" then none
    else (fault? (ProjectPatternSet.parse (Text.trim text))).map (.tag (Text.trim text))

/-- What is wrong with the patterns of an axis. -/
def patternFault? (axis : OrderedAxis) (text : Option String) : Option CriteriaError :=
  text.bind fun s => (fault? (PatternSet.parse axis s)).map (.pattern axis s)

/-- What is wrong with the texts, each by itself, in the order in which they are read. -/
def textFaults : List CriteriaError :=
  [c.tagFault?, patternFault? .column c.column, patternFault? .priority c.priority,
    patternFault? .status c.status].reduceOption

/-- All that is wrong with the criteria; that there are none comes first. -/
def faults : List CriteriaError :=
  (if c.any then [] else [.nothing]) ++ c.textFaults

/-- The tag, unless there is none or it is `*` or cannot be read. -/
def tagSet? : Option ProjectPatternSet :=
  c.tag.bind fun text =>
    if Text.trim text = "*" then none else (ProjectPatternSet.parse (Text.trim text)).toOption

/-- What the criteria say where they can be read. -/
def filters (now : Instant) : Filters where
  column := c.column.bind fun s => (PatternSet.parse .column s).toOption
  priority := c.priority.bind fun s => (PatternSet.parse .priority s).toOption
  status := c.status.bind fun s => (PatternSet.parse .status s).toOption
  tag := c.tagSet?
  query := c.query.map Text.lower
  createdSince := c.createdAfter.map fun days => now.daysEarlier days.toNat
  updatedSince := c.updatedAfter.map fun days => now.daysEarlier days.toNat

end Criteria

/-! ## What reading comes to -/

namespace Filters

/-- The patterns of an axis are read unless they have a fault. -/
theorem parsePattern_eq (axis : OrderedAxis) (text : Option String) :
    text.mapM (parsePattern axis) =
      unlessFault (Criteria.patternFault? axis text)
        (text.bind fun s => (PatternSet.parse axis s).toOption) := by
  simp only [option_mapM_eq, parsePattern, fault?_mapError, toOption_mapError,
    Criteria.patternFault?]

/-- A tag is read unless it has a fault, and `*` is read as no filter at all. -/
theorem mapM_parseTag_eq (c : Criteria) :
    c.tag.mapM parseTag =
      unlessFault c.tagFault? (c.tag.map fun text =>
        if Text.trim text = "*" then none
        else (ProjectPatternSet.parse (Text.trim text)).toOption) := by
  rw [Criteria.tagFault?]
  cases c.tag with
  | none => rfl
  | some text =>
    rw [Option.mapM_some, Option.bind_some, Option.map_some, parseTag]
    -- a `*` is told before anything is parsed, so it has no fault and gives no set
    by_cases hAll : Text.trim text = "*"
    · rw [if_pos hAll, if_pos hAll, if_pos (beq_iff_eq.mpr hAll)]
      rfl
    · rw [if_neg hAll, if_neg hAll, if_neg (beq_iff_eq.not.mpr hAll)]
      cases ProjectPatternSet.parse (Text.trim text) <;> rfl

/-- Filters are read unless one of the texts has a fault, and the first fault is the
one reported. -/
theorem parse_eq (now : Instant) (c : Criteria) :
    Filters.parse now c = unlessFault c.textFaults.head? (c.filters now) := by
  rw [Filters.parse, mapM_parseTag_eq, parsePattern_eq, parsePattern_eq, parsePattern_eq,
    Criteria.textFaults]
  -- reading stops at the first fault, so the later ones are looked at only without it
  cases c.tagFault? with
  | some e => rfl
  | none =>
    cases Criteria.patternFault? .column c.column with
    | some e => rfl
    | none =>
      cases Criteria.patternFault? .priority c.priority with
      | some e => rfl
      | none =>
        cases Criteria.patternFault? .status c.status with
        | some e => rfl
        | none =>
          rw [Criteria.filters, Criteria.tagSet?]
          cases c.tag <;> rfl

end Filters

namespace Plan

/-- The plan for criteria that can be read. -/
def reading (now : Instant) (heading : Option Heading) (c : Criteria) : Plan where
  heading := heading
  filters := c.filters now
  showHistory := c.showHistory
  showMetadata := c.showMetadata

/-- A plan is made unless there are no criteria or one of them has a fault. -/
theorem ofCriteria_eq (now : Instant) (heading : Option Heading) (c : Criteria) :
    ofCriteria now heading c = unlessFault c.faults.head? (reading now heading c) := by
  rw [ofCriteria, Filters.parse_eq, Criteria.faults]
  -- that there are no criteria is the first of the faults, whatever else is wrong
  cases c.any with
  | false => rfl
  | true => cases hFaults : c.textFaults with
    | nil => rfl
    | cons e rest => rfl

end Plan

end TicketTrail
