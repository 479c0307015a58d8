import TicketTrail.Proofs.Pattern.Directions
import TicketTrail.Proofs.Scale.Positions
import TicketTrail.Catalog
import TicketTrail.Settings.Format

/-!
# Orders in a settings file

An order in a settings file is looked through once, name by name, with the lower case of the names
before kept in mind; a rank table is filled from it under the keys of the axis. Both fold names
alike, though only the first looks at blanks. So what is let through has a key of its own for each
name, none of them empty, and no position is written over: each name is ranked where it stands.

Main results:

* `firstFault?_eq_some_iff` — which fault of an order is reported;
* `Settings.validate_eq_ok_iff`, `Settings.validate_eq_error_iff` — what comes of two orders;
* `ProperOrder.moved_upward_iff`, `ProperOrder.moved_downward_iff` — the moves between names of an
  order that is let through;
* `Settings.loaded_orders_rank` — all of it, for a settings file.
-/

namespace TicketTrail

/-- No name of the order is blank, and no two are the same up to case. -/
@[mk_iff]
structure ProperOrder (order : List String) : Prop where
  named : ∀ name ∈ order, Text.allBlank name = false
  distinct : (order.map Text.lower).Nodup

instance (order : List String) : Decidable (ProperOrder order) :=
  decidable_of_iff' _ (properOrder_iff order)

/-- What is wrong with a name that stands after the given ones; that it is blank comes first. -/
inductive OrderFault.Of (before : List String) (name : String) : OrderFault → Prop
  | empty (h : Text.allBlank name = true) : Of before name .emptyName
  | again (hNamed : Text.allBlank name = false) (h : Text.lower name ∈ before.map Text.lower) :
      Of before name (.listedTwice name)

/-- The fault is that of the first name at fault. -/
def FirstFaultOf (order : List String) (fault : OrderFault) : Prop :=
  ∃ before name after, order = before ++ name :: after ∧ ProperOrder before ∧ fault.Of before name

/-! ## Looking through an order -/

section Scan

variable {order before rest : List String} {name : String} {fault : OrderFault}

/-- One more name keeps an order proper when it is not blank and not there already. -/
theorem properOrder_concat :
    ProperOrder (order ++ [name]) ↔
      ProperOrder order ∧ Text.allBlank name = false ∧ Text.lower name ∉ order.map Text.lower := by
  rw [properOrder_iff, properOrder_iff, List.forall_mem_append, List.forall_mem_singleton,
    List.map_append, List.map_singleton, ← List.concat_eq_append, List.nodup_concat]
  tauto

/-- A name is at fault behind others, or it can stand there. -/
theorem exists_of_or (before : List String) (name : String) :
    (∃ fault : OrderFault, fault.Of before name) ∨
      (Text.allBlank name = false ∧ Text.lower name ∉ before.map Text.lower) := by
  cases hBlank : Text.allBlank name with
  | true => exact Or.inl ⟨_, .empty hBlank⟩
  | false =>
    -- that a name is blank is looked at first, and only a named one can be repeated
    by_cases hAgain : Text.lower name ∈ before.map Text.lower
    · exact Or.inl ⟨_, .again hBlank hAgain⟩
    · exact Or.inr ⟨rfl, hAgain⟩

/-- An order is proper or has a first fault. -/
theorem properOrder_or_firstFaultOf (order : List String) :
    ProperOrder order ∨ ∃ fault, FirstFaultOf order fault := by
  -- names are looked at from the front, so the order grows at its end
  induction order using List.reverseRecOn with
  | nil => exact Or.inl ⟨by simp, List.nodup_nil⟩
  | append_singleton order name ih =>
    rcases ih with hProper | ⟨fault, before, first, after, rfl, hBefore, hFault⟩
    · rcases exists_of_or order name with ⟨fault, hFault⟩ | hFine
      · exact Or.inr ⟨fault, order, name, [], rfl, hProper, hFault⟩
      · exact Or.inl (properOrder_concat.mpr ⟨hProper, hFine⟩)
    · -- whatever comes later, the first fault stays the first
      exact Or.inr ⟨fault, before, first, after ++ [name], by simp, hBefore, hFault⟩

/-- What stands behind names without a fault is looked at with their lower case in mind. -/
theorem firstFaultAfter?_append (seen : List String) (h : firstFaultAfter? seen before = none) :
    firstFaultAfter? seen (before ++ rest) =
      firstFaultAfter? ((before.map Text.lower).reverse ++ seen) rest := by
  induction before generalizing seen with
  | nil => rfl
  | cons name before ih =>
    unfold firstFaultAfter? at h
    split at h
    · cases h
    · next hBlank =>
      split at h
      · cases h
      · next hSeen =>
        -- the name is passed over and kept in mind
        rw [List.cons_append, firstFaultAfter?, if_neg hBlank, if_neg hSeen, ih _ h]
        simp

/-- The first fault is found: the names before it are passed over. -/
theorem firstFault?_of_firstFaultOf (h : FirstFaultOf order fault) :
    firstFault? order = some fault := by
  obtain ⟨before, name, after, rfl, hBefore, hFault⟩ := h
  have hFine : firstFaultAfter? [] before = none :=
    firstFault?_eq_none_iff.mpr ⟨hBefore.named, hBefore.distinct⟩
  rw [firstFault?, firstFaultAfter?_append [] hFine, List.append_nil, firstFaultAfter?]
  cases hFault with
  | empty hBlank => rw [if_pos hBlank]
  | again hNamed hAgain =>
    have hSeen : (before.map Text.lower).reverse.contains (Text.lower name) = true :=
      List.contains_iff_mem.mpr (List.mem_reverse.mpr hAgain)
    rw [if_neg (Bool.eq_false_iff.mp hNamed), if_pos hSeen]

theorem firstFault?_eq_none_iff_proper : firstFault? order = none ↔ ProperOrder order := by
  rw [firstFault?_eq_none_iff, properOrder_iff]
  rfl

/-- The fault that is reported is that of the first name at fault. -/
theorem firstFault?_eq_some_iff : firstFault? order = some fault ↔ FirstFaultOf order fault := by
  refine ⟨fun h => ?_, firstFault?_of_firstFaultOf⟩
  rcases properOrder_or_firstFaultOf order with hProper | ⟨other, hOther⟩
  · rw [firstFault?_eq_none_iff_proper.mpr hProper] at h
    cases h
  · rw [firstFault?_of_firstFaultOf hOther] at h
    cases h
    exact hOther

end Scan

/-! ## Two orders -/

namespace Settings

variable {settings loaded : Settings} {e : SettingsError}

/-- Settings are let through as they are, when both orders are proper. -/
theorem validate_eq_ok_iff :
    settings.validate = .ok loaded ↔
      ProperOrder settings.statusOrder ∧ ProperOrder settings.priorityOrder ∧
        loaded = settings := by
  rw [← firstFault?_eq_none_iff_proper, ← firstFault?_eq_none_iff_proper, validate]
  -- the priorities are looked at only when the statuses are proper
  cases firstFault? settings.statusOrder with
  | some fault => simp
  | none =>
    cases firstFault? settings.priorityOrder with
    | some fault => simp
    | none => simp [eq_comm]

/-- Settings are refused for the first fault of an order, and for their statuses first. -/
theorem validate_eq_error_iff :
    settings.validate = .error e ↔
      (∃ fault, FirstFaultOf settings.statusOrder fault ∧ e = .invalid "status_order" fault) ∨
        (ProperOrder settings.statusOrder ∧
          ∃ fault, FirstFaultOf settings.priorityOrder fault ∧
            e = .invalid "priority_order" fault) := by
  simp only [← firstFault?_eq_some_iff, ← firstFault?_eq_none_iff_proper, validate]
  cases firstFault? settings.statusOrder with
  | some fault => simp [eq_comm]
  | none =>
    cases firstFault? settings.priorityOrder with
    | some fault => simp [eq_comm]
    | none => simp

end Settings

/-! ## Ranks -/

namespace ProperOrder

variable {order : List String} (h : ProperOrder order)

include h

/-- A name of a proper order is not empty, so it can have a rank. -/
theorem ne_empty {name : String} (hName : name ∈ order) : name ≠ "" := by
  rintro rfl
  cases h.named "" hName

/-- The axis folds names as the check of the order does. -/
theorem nodup_keys : (order.map NameRule.ignoreCase.key).Nodup :=
  h.distinct

/-- Each name is ranked where it stands. -/
theorem rank?_ofOrder (i : Fin order.length) :
    (RankTable.ofOrder .ignoreCase order).rank? order[i] = some ((i : Nat) : Int) :=
  RankTable.rank?_ofOrder_of_nodup h.nodup_keys (h.ne_empty (List.getElem_mem i.isLt))
    (List.getElem?_eq_getElem i.isLt)

/-- Between names of the order the places alone say which way a move goes. -/
theorem moved_iff (axis : OrderedAxis) (d : Direction) (i j : Fin order.length) :
    (Scale.mk axis (.ofOrder .ignoreCase order)).moved d order[i] order[j] = true ↔
      (d = axis.upward ∧ i < j) ∨ (d = axis.downward ∧ j < i) := by
  have hRank : ∀ k : Fin order.length,
      (Scale.mk axis (.ofOrder .ignoreCase order)).rank? order[k] = some ((k : Nat) : Int) :=
    h.rank?_ofOrder
  -- a rank is a place, and places are compared as integers
  rw [Scale.moved_iff_of_ranked (hRank i) (hRank j), Int.ofNat_lt, Int.ofNat_lt, Fin.lt_def,
    Fin.lt_def]

theorem moved_upward_iff (axis : OrderedAxis) (i j : Fin order.length) :
    (Scale.mk axis (.ofOrder .ignoreCase order)).moved axis.upward order[i] order[j] = true ↔
      i < j := by
  rw [h.moved_iff]
  simp [axis.upward_ne_downward]

theorem moved_downward_iff (axis : OrderedAxis) (i j : Fin order.length) :
    (Scale.mk axis (.ofOrder .ignoreCase order)).moved axis.downward order[i] order[j] = true ↔
      j < i := by
  rw [h.moved_iff]
  simp [axis.upward_ne_downward.symm]

end ProperOrder

namespace Settings

variable {files : Files} {path text : String} {pairs : Toml.Pairs} {settings : Settings}

/-- An order with a name in it takes the place of the ranks that are used without one. -/
theorem ranks_of_pos {order : List String} {otherwise : RankTable} (h : 0 < order.length) :
    (if order.isEmpty then otherwise else .ofOrder .ignoreCase order) =
      RankTable.ofOrder .ignoreCase order := by
  rw [if_neg]
  simpa using List.ne_nil_of_length_pos h

/-- A file of the right form is loaded when its orders are let through. -/
theorem load_eq_validate (hRead : files.read path = .ok text)
    (hToml : Toml.parse? text = some pairs) (hForm : ofToml pairs = .ok settings) :
    load files path = settings.validate := by
  simp only [load, hRead, parse, hToml, hForm]
  rfl

/-- **An order that is let through ranks each name at its own position.** A settings file of the
right form is accepted exactly when in each of its orders no name is blank and no two are the same
up to case. Otherwise it is refused for the first name at fault, of the statuses before the
priorities, and for its being blank before its being repeated. The table of a proper order has as
many names as the order and ranks each of them where it stands. So with accepted settings a
priority is raised exactly towards the front of its order, and a status, where the snapshot lists
none, towards the back. -/
theorem loaded_orders_rank (hRead : files.read path = .ok text)
    (hToml : Toml.parse? text = some pairs) (hForm : ofToml pairs = .ok settings) :
    ((∃ loaded, load files path = .ok loaded) ↔
        ProperOrder settings.statusOrder ∧ ProperOrder settings.priorityOrder) ∧
      (∀ e, load files path = .error e ↔
        (∃ fault, FirstFaultOf settings.statusOrder fault ∧ e = .invalid "status_order" fault) ∨
          (ProperOrder settings.statusOrder ∧
            ∃ fault, FirstFaultOf settings.priorityOrder fault ∧
              e = .invalid "priority_order" fault)) ∧
      (∀ order, ProperOrder order →
        let table := RankTable.ofOrder .ignoreCase order
        table.size = order.length ∧
          ∀ i : Fin order.length, table.rank? order[i] = some ((i : Nat) : Int)) ∧
      ∀ loaded, load files path = .ok loaded → loaded = settings ∧ ∀ snapshot,
        let catalog := Catalog.ofSnapshot snapshot loaded
        let priorities := loaded.priorityOrder
        let states := loaded.statusOrder
        (∀ i j : Fin priorities.length,
          catalog.priority.moved .raised priorities[i] priorities[j] = true ↔ j < i) ∧
        (snapshot.statuses = none → ∀ i j : Fin states.length,
          catalog.status.moved .raised states[i] states[j] = true ↔ i < j) := by
  have hLoad := load_eq_validate hRead hToml hForm
  simp only [hLoad]
  refine ⟨?_, fun e => validate_eq_error_iff, ?_, ?_⟩
  · simp only [validate_eq_ok_iff, exists_and_left, exists_eq, and_true]
  · intro order hProper
    exact ⟨RankTable.size_ofOrder_of_nodup hProper.nodup_keys, hProper.rank?_ofOrder⟩
  · intro loaded hOk
    obtain ⟨hStatus, hPriority, rfl⟩ := validate_eq_ok_iff.mp hOk
    refine ⟨rfl, fun snapshot => ⟨fun i j => ?_, fun hNone i j => ?_⟩⟩
    · -- a name in the order means that the built-in priorities are not used
      show (Scale.mk .priority loaded.priorityRanks).moved .raised _ _ = true ↔ _
      rw [priorityRanks, ranks_of_pos i.pos]
      exact hPriority.moved_downward_iff .priority i j
    · have hScale : (Catalog.ofSnapshot snapshot loaded).status =
          ⟨.status, .ofOrder .ignoreCase loaded.statusOrder⟩ := by
        rw [Catalog.ofSnapshot, hNone]
        show Scale.mk .status loaded.statusRanks = _
        rw [statusRanks, ranks_of_pos i.pos]
      rw [hScale]
      exact hStatus.moved_upward_iff .status i j

/-- The text of a settings file with nothing but the two orders. -/
def textOfOrders (states priorities : String) : String :=
  "status_order = [" ++ states ++ "] # as on the board\npriority_order = [" ++ priorities ++ "]"

theorem exists_pairs_of_toOption
    (h : ((Toml.parse? text).bind fun pairs => (ofToml pairs).toOption) = some settings) :
    ∃ pairs, Toml.parse? text = some pairs ∧ ofToml pairs = .ok settings := by
  obtain ⟨pairs, hPairs, hForm⟩ := Option.bind_eq_some_iff.mp h
  exact ⟨pairs, hPairs, eq_ok_of_toOption hForm⟩

/-- A file with two orders, and one with a repeated status before a blank one and an empty
priority. -/
theorem loaded_orders_rank_workflow :
    let proper := textOfOrders "'Open', 'In Review', 'Done'" "'HIGH', 'low'"
    let faulty := textOfOrders "'Open', 'OPEN', ' '" "''"
    let workflow : Settings :=
      { statusOrder := ["Open", "In Review", "Done"], priorityOrder := ["HIGH", "low"] }
    (load ⟨fun _ => .ok proper⟩ "config.toml" = .ok workflow ∧
        (RankTable.ofOrder .ignoreCase workflow.statusOrder).size = 3 ∧
        (Catalog.ofSnapshot {} workflow).status.moved .raised "Open" "Done" = true ∧
        (Catalog.ofSnapshot {} workflow).priority.moved .raised "low" "HIGH" = true) ∧
      load ⟨fun _ => .ok faulty⟩ "config.toml" =
        .error (.invalid "status_order" (.listedTwice "OPEN")) := by
  intro proper faulty workflow
  have hRead : ∀ text, (Files.mk fun _ => .ok text).read "config.toml" = .ok text := fun _ => rfl
  have hProper : ((Toml.parse? proper).bind fun pairs => (ofToml pairs).toOption) =
      some workflow := by decide +kernel
  have hFaulty : ((Toml.parse? faulty).bind fun pairs => (ofToml pairs).toOption) =
      some { statusOrder := ["Open", "OPEN", " "], priorityOrder := [""] } := by decide +kernel
  obtain ⟨pairs, hPairs, hForm⟩ := exists_pairs_of_toOption hProper
  obtain ⟨hAccepted, -, hTable, hLoaded⟩ := loaded_orders_rank (hRead proper) hPairs hForm
  obtain ⟨loaded, hOk⟩ := hAccepted.mpr ⟨by decide, by decide⟩
  obtain ⟨rfl, hMoves⟩ := hLoaded loaded hOk
  obtain ⟨hPriority, hStatus⟩ := hMoves {}
  obtain ⟨otherPairs, hOtherPairs, hOtherForm⟩ := exists_pairs_of_toOption hFaulty
  obtain ⟨-, hRefused, -⟩ := loaded_orders_rank (hRead faulty) hOtherPairs hOtherForm
  -- the fault is the second name, though a third is blank and the other order is at fault
  -- too
  have hRepeated : FirstFaultOf ["Open", "OPEN", " "] (.listedTwice "OPEN") :=
    ⟨["Open"], "OPEN", [" "], rfl, by decide, .again (by decide) (by decide)⟩
  exact ⟨⟨hOk, (hTable _ (by decide)).1,
    (hStatus rfl ⟨0, by decide⟩ ⟨2, by decide⟩).mpr (by decide),
    (hPriority ⟨1, by decide⟩ ⟨0, by decide⟩).mpr (by decide)⟩,
    (hRefused _).mpr (Or.inl ⟨_, hRepeated, rfl⟩)⟩

end Settings

end TicketTrail
