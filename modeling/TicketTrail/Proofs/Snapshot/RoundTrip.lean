import TicketTrail.Proofs.Json.FieldOrder
import TicketTrail.Proofs.Json.Records
import TicketTrail.Proofs.Json.RoundTrip
import TicketTrail.Proofs.Time.Timestamps
import TicketTrail.Snapshot.Format

/-!
# Snapshots that are read back

What is written of a snapshot is read as that snapshot: every record is written with its
own fields, each once, and every value in it is read back. The text of a file may say the
same with less: fields can be left out, an old value can be null or missing, and a time
can be told with an offset. All of that is gone once the file has been loaded, and what is
written then is loaded as the same snapshot.

Main results:

* `Snapshot.ofJson_toJson`, `Event.ofJson_toJson` — a record is read back, and so are the
  records in it;
* `Snapshot.parse_text` — a snapshot is read back from its text;
* `Dictionary.ofJson_of_perm` — a map is read back in whatever order its entries stand;
* `Change.absentIs_old` — a missing old value is one that is null;
* `defaultsFilledIn` — a field that may be left out is read as its default, and written;
* `loading_undoes_writing` — all of it, for the files and the times that are loaded.
-/

namespace TicketTrail

open Json (IsPlain)

/-- A list of texts is plain. -/
theorem Json.isPlain_strings (l : List String) : (strings l).IsPlain :=
  .array (List.forall_mem_map.mpr fun s _ => .string s)

/-- A list of records is plain when every record is. -/
theorem Json.isPlain_map {α : Type} {encode : α → Json} (h : ∀ a, (encode a).IsPlain)
    (l : List α) : (array (l.map encode)).IsPlain :=
  .array (List.forall_mem_map.mpr fun a _ => h a)

namespace Instant

/-- An instant is read back from its text. -/
theorem ofJson_toJson (t : Instant) : ofJson t.toJson = .ok t := by
  rw [ofJson, toJson, Json.toText_string, Json.ok_bind, parse?_text]
  rfl

/-- An instant is written as a text. -/
theorem isPlain_toJson (t : Instant) : t.toJson.IsPlain :=
  .string t.text

end Instant

namespace Event

/-- **An event is read back.** -/
theorem ofJson_toJson (e : Event) : ofJson e.toJson = .ok e := by
  -- each field that is written is one the reader knows
  have hKnown : ∀ field ∈ e.toFields, field.1 ∈ ["prior", "new", "at"] := by
    rw [toFields]
    cases e.prior <;> simp
  have hRecord := Json.toRecord_of_nodup hKnown (List.nodup_cons.mp e.nodup_toFields).2
  rw [toJson, ofJson, hRecord, Json.ok_bind]
  -- the field is left out or written, and looked up either way
  obtain ⟨⟨prior, next⟩, time⟩ := e
  cases prior with
  | none => simp [toFields, Json.Record.optional, Instant.ofJson_toJson]
  | some prior => simp [toFields, Json.Record.optional, Instant.ofJson_toJson]

/-- An event is plain, with or without a prior state. -/
theorem isPlain_toJson (e : Event) : e.toJson.IsPlain := by
  have hLast : ∀ field ∈ [("new", Json.string e.next), ("at", e.time.toJson)],
      field.2.IsPlain := by
    simp only [List.forall_mem_cons]
    exact ⟨.string _, e.time.isPlain_toJson, nofun⟩
  refine .object ?_
  rw [toFields]
  cases e.prior with
  | none => exact hLast
  | some prior => exact List.forall_mem_cons.mpr ⟨.string prior, hLast⟩

/-- The prior state is written exactly when there is one. -/
theorem prior_mem_toFields_iff (e : Event) :
    "prior" ∈ e.toFields.map Prod.fst ↔ e.prior.isSome := by
  rw [toFields]
  cases e.prior <;> simp

end Event

namespace Column

/-- A column is read back. -/
theorem ofJson_toJson (c : Column) : ofJson c.toJson = .ok c := by
  have hRecord : c.toJson.toRecord ["id", "name", "sequence"] = .ok
      [("id", .string c.id), ("name", .string c.name), ("sequence", .integer c.sequence.toInt)] :=
    Json.toRecord_of_nodup (by simp) (by simp)
  rw [ofJson, hRecord, Json.ok_bind]
  simp [Json.toInt64_toInt]

/-- A column is plain. -/
theorem isPlain_toJson (c : Column) : c.toJson.IsPlain := by
  refine .object ?_
  simp only [List.forall_mem_cons]
  exact ⟨.string _, .string _, .integer _, nofun⟩

end Column

namespace Project

/-- A project is read back with its columns. -/
theorem ofJson_toJson (p : Project) : ofJson p.toJson = .ok p := by
  have hRecord : p.toJson.toRecord ["id", "name", "slugs", "columns"] = .ok
      [("id", .string p.id), ("name", .string p.name), ("slugs", .strings p.slugs),
        ("columns", .array (p.columns.map Column.toJson))] :=
    Json.toRecord_of_nodup (by simp) (by simp)
  rw [ofJson, hRecord, Json.ok_bind]
  simp [Json.toList_strings, Json.toList_map Column.ofJson_toJson]

/-- A project is plain, and so are its columns. -/
theorem isPlain_toJson (p : Project) : p.toJson.IsPlain := by
  refine .object ?_
  simp only [List.forall_mem_cons]
  exact ⟨.string _, .string _, Json.isPlain_strings _, Json.isPlain_map Column.isPlain_toJson _,
    nofun⟩

end Project

namespace Dictionary

section Entries

variable {α : Type}

/-- An entry under a new key is put among the others, and all of them stay. -/
theorem insertEntry_perm {key : String} {value : α} {entries : List (String × α)}
    (h : key ∉ entries.map Prod.fst) :
    (insertEntry key value entries).Perm ((key, value) :: entries) := by
  induction entries with
  | nil => rfl
  | cons entry rest ih =>
    rw [List.map_cons, List.mem_cons, not_or] at h
    rw [insertEntry, if_neg h.1]
    split
    · rfl
    · -- the entry passes one and goes on
      exact ((ih h.2).cons entry).trans (List.Perm.swap (key, value) entry rest)

/-- Entries under new keys, put into a dictionary one by one, are all kept. -/
theorem foldl_insert_perm (d : Dictionary α) {entries : List (String × α)}
    (h : ((d.entries ++ entries).map Prod.fst).Nodup) :
    (entries.foldl (fun d entry => d.insert entry.1 entry.2) d).entries.Perm
      (d.entries ++ entries) := by
  -- one entry after another: the dictionary grows by the first one, which the rest does not
  -- repeat
  induction entries generalizing d with
  | nil => rw [List.append_nil, List.foldl_nil]
  | cons entry rest ih =>
    have hPerm : (d.entries ++ entry :: rest).Perm (entry :: (d.entries ++ rest)) :=
      List.perm_middle
    -- its key is not in the dictionary yet, since all keys are distinct
    have hNew : entry.1 ∉ d.entries.map Prod.fst := by
      have hCons := (hPerm.map Prod.fst).nodup_iff.mp h
      rw [List.map_cons, List.nodup_cons, List.map_append, List.mem_append, not_or] at hCons
      exact hCons.1.1
    have hInsert : (d.insert entry.1 entry.2).entries.Perm (entry :: d.entries) :=
      insertEntry_perm hNew
    have hRest := (hInsert.append_right rest).trans hPerm.symm
    exact (ih _ ((hRest.map Prod.fst).nodup_iff.mpr h)).trans hRest

/-- A dictionary is made of its own entries in any order. -/
theorem ofList_of_perm (d : Dictionary α) {entries : List (String × α)}
    (h : entries.Perm d.entries) : ofList entries = d := by
  -- the keys of a dictionary are in strict order, so none repeats
  have hKeys : (d.entries.map Prod.fst).Nodup := by
    rw [List.Nodup, List.pairwise_map]
    refine d.sorted.imp fun {a b} hLt hEq => ?_
    rw [hEq] at hLt
    exact String.lt_irrefl _ hLt
  have hPerm := (foldl_insert_perm empty ((h.map Prod.fst).nodup_iff.mpr hKeys)).trans h
  -- both lists of entries are in order, so they are the same list
  refine ext (hPerm.eq_of_pairwise ?_ (ofList entries).sorted d.sorted)
  exact fun a b _ _ hab hba => absurd (String.lt_trans hab hba) (String.lt_irrefl _)

end Entries

/-- A dictionary is read back in whatever order its entries were written. -/
theorem ofJson_of_perm (d : Dictionary String) {entries : List (String × String)}
    (h : entries.Perm d.entries) :
    ofJson (.object (entries.map fun entry => (entry.1, .string entry.2))) = .ok d := by
  have hPairs := Json.toPairs_map Json.toText_string entries
  rw [ofJson, hPairs, Json.ok_bind, ofList_of_perm d h]
  rfl

/-- A dictionary is read back. -/
theorem ofJson_toJson (d : Dictionary String) : ofJson d.toJson = .ok d :=
  d.ofJson_of_perm (List.Perm.refl d.entries)

/-- A dictionary of texts is plain. -/
theorem isPlain_toJson (d : Dictionary String) : d.toJson.IsPlain :=
  .object (List.forall_mem_map.mpr fun entry _ => .string entry.2)

end Dictionary

namespace StatusList

/-- A status catalog is read back. -/
theorem ofJson_toJson (s : StatusList) : ofJson s.toJson = .ok s := by
  have hRecord : s.toJson.toRecord ["open", "closed", "names"] = .ok
      [("open", .strings s.openKeys), ("closed", .strings s.closedKeys),
        ("names", s.names.toJson)] :=
    Json.toRecord_of_nodup (by simp) (by simp)
  rw [ofJson, hRecord, Json.ok_bind]
  simp [Json.toList_strings, Dictionary.ofJson_toJson]

/-- A status catalog is plain. -/
theorem isPlain_toJson (s : StatusList) : s.toJson.IsPlain := by
  refine .object ?_
  simp only [List.forall_mem_cons]
  exact ⟨Json.isPlain_strings _, Json.isPlain_strings _, s.names.isPlain_toJson, nofun⟩

end StatusList

namespace Change

/-- A change that was written holds nothing but strings and nulls. -/
theorem isHeld_toJson (c : Change) : c.toJson.isHeld (openLimit - 4) = true := by
  have hOld : ∀ depth, (Json.ofOption c.prior).isHeld depth = true := by
    intro depth
    cases c.prior <;> simp [Json.ofOption, Json.isHeld]
  cases hField : c.field <;>
    simp [toJson, Field.toFields, hField, openLimit, Json.isHeld, Json.allFieldsHeld, hOld,
      Instant.toJson]

/-- The tag in front of a change is taken off, and the rest is left as it was. -/
theorem splitField_cons (tag : Json) {fields : List (String × Json)}
    (h : ∀ field ∈ fields, field.1 ≠ "field") :
    splitField (.object (("field", tag) :: fields)) = .ok (tag, .object fields) := by
  have hNone : (fields.filter fun field => field.1 == "field") = [] :=
    List.filter_eq_nil_iff.mpr fun field hField => by simpa using h field hField
  have hAll : (fields.filter fun field => field.1 != "field") = fields :=
    List.filter_eq_self.mpr fun field hField => by simpa using h field hField
  rw [splitField]
  simp [hNone, hAll]

/-- **A change is read back** with its tag, and with its board if it has one. -/
theorem ofJson_toJson (c : Change) : ofJson c.toJson = .ok c := by
  have hHeld := c.isHeld_toJson
  obtain ⟨⟨⟨prior, next⟩, time⟩, field⟩ := c
  -- the old value is always written, as null when there is none
  have hEvent : eventOfRecord [("old", .ofOption prior), ("new", .string next),
      ("at", time.toJson)] = .ok ⟨⟨prior, next⟩, time⟩ := by
    simp [eventOfRecord, Json.Record.optional, Json.toOption_ofOption, Instant.ofJson_toJson]
  have hRecord : (Json.object [("old", .ofOption prior), ("new", .string next),
      ("at", time.toJson)]).toRecord ["old", "new", "at"] = .ok _ :=
    Json.toRecord_of_nodup (by simp) (by simp)
  -- the tag is taken off again, and the rest is read by what the tag says
  rw [ofJson, hHeld]
  cases field with
  | status =>
    rw [toJson, Field.toFields, List.singleton_append, splitField_cons _ (by simp)]
    simp [hRecord, hEvent]
  | priority =>
    rw [toJson, Field.toFields, List.singleton_append, splitField_cons _ (by simp)]
    simp [hRecord, hEvent]
  | column board =>
    -- a change of column has one field more, which the event does not look at
    have hBoard : (Json.object [("board", .string board), ("old", .ofOption prior),
        ("new", .string next), ("at", time.toJson)]).toRecord ["board", "old", "new", "at"] =
          .ok _ :=
      Json.toRecord_of_nodup (by simp) (by simp)
    have hBoardEvent : eventOfRecord [("board", .string board), ("old", .ofOption prior),
        ("new", .string next), ("at", time.toJson)] = .ok ⟨⟨prior, next⟩, time⟩ := by
      simp [eventOfRecord, Json.Record.optional, Json.toOption_ofOption, Instant.ofJson_toJson]
    rw [toJson, Field.toFields, List.cons_append, List.singleton_append,
      splitField_cons _ (by simp)]
    simp [hBoard, hBoardEvent]

/-- A change is plain, whatever its field. -/
theorem isPlain_toJson (c : Change) : c.toJson.IsPlain := by
  have hOld : (Json.ofOption c.prior).IsPlain := by
    cases c.prior with
    | none => exact .null
    | some prior => exact .string prior
  -- the fields that tell what was changed come first, then the values and the time
  refine .object (List.forall_mem_append.mpr ⟨?_, ?_⟩)
  · cases c.field with
    | status | priority => exact List.forall_mem_singleton.mpr (.string _)
    | column board =>
      exact List.forall_mem_cons.mpr ⟨.string _, List.forall_mem_singleton.mpr (.string board)⟩
  · simp only [List.forall_mem_cons]
    exact ⟨hOld, .string _, c.time.isPlain_toJson, nofun⟩

end Change

namespace Ticket

/-- A ticket is read back with its history. -/
theorem ofJson_toJson (t : Ticket) : ofJson t.toJson = .ok t := by
  have hRecord : t.toJson.toRecord ["id", "title", "status", "priority", "created_at",
      "updated_at", "projects", "columns", "history"] = .ok
      [("id", .integer t.id.toNat), ("title", .string t.title), ("status", .string t.status),
        ("priority", .string t.priority), ("created_at", t.createdAt.toJson),
        ("updated_at", t.updatedAt.toJson), ("projects", .strings t.projects),
        ("columns", t.columns.toJson), ("history", .array (t.history.map Change.toJson))] :=
    Json.toRecord_of_nodup (by simp) (by simp)
  rw [ofJson, hRecord, Json.ok_bind]
  simp [Json.toUInt64_toNat, Instant.ofJson_toJson, Json.toList_strings, Dictionary.ofJson_toJson,
    Json.toList_map Change.ofJson_toJson]

/-- A ticket is plain. -/
theorem isPlain_toJson (t : Ticket) : t.toJson.IsPlain := by
  refine .object ?_
  simp only [List.forall_mem_cons]
  exact ⟨.integer _, .string _, .string _, .string _, t.createdAt.isPlain_toJson,
    t.updatedAt.isPlain_toJson, Json.isPlain_strings _, t.columns.isPlain_toJson,
    Json.isPlain_map Change.isPlain_toJson _, nofun⟩

end Ticket

namespace Snapshot

/-- A snapshot is read back, with its statuses or without. -/
theorem ofJson_toJson (s : Snapshot) : ofJson s.toJson = .ok s := by
  have hProjects := Json.toList_map Project.ofJson_toJson s.projects
  have hTickets := Json.toList_map Ticket.ofJson_toJson s.tickets
  obtain ⟨projects, statuses, tickets⟩ := s
  rw [ofJson, toJson]
  -- the statuses are left out when there are none, and looked up either way
  cases statuses with
  | none =>
    rw [Json.toRecord_of_nodup (by simp) (by simp), Json.ok_bind]
    simp [Json.Record.optional, hProjects, hTickets]
  | some statuses =>
    have hStatuses : Json.toOption StatusList.ofJson statuses.toJson = .ok (some statuses) := by
      show (StatusList.ofJson statuses.toJson).map some = .ok (some statuses)
      rw [statuses.ofJson_toJson]
      rfl
    rw [Json.toRecord_of_nodup (by simp) (by simp), Json.ok_bind]
    simp [Json.Record.optional, hProjects, hTickets, hStatuses]

/-- A snapshot is plain. -/
theorem isPlain_toJson (s : Snapshot) : s.toJson.IsPlain := by
  have hTickets := Json.isPlain_map Ticket.isPlain_toJson s.tickets
  have hProjects := Json.isPlain_map Project.isPlain_toJson s.projects
  refine .object ?_
  simp only [List.forall_mem_append]
  refine ⟨⟨List.forall_mem_singleton.mpr hProjects, ?_⟩, List.forall_mem_singleton.mpr hTickets⟩
  cases s.statuses with
  | none => exact nofun
  | some statuses => exact List.forall_mem_singleton.mpr statuses.isPlain_toJson

/-- **A snapshot is read back from its text.** -/
theorem parse_text (s : Snapshot) : parse s.toJson.text = .ok s := by
  rw [parse, s.isPlain_toJson.parse?_text]
  exact s.ofJson_toJson

end Snapshot

/-! ## Fields that are left out -/

/-- A missing prior state is none. -/
theorem Event.absentIs_prior : Json.AbsentIs Event.ofJson "prior" .null :=
  Json.absentIs_of_bind (by simp) fun without filled h => by
    simp [h.optional_self, h.required]

/-- A column without a sequence has the sequence 0. -/
theorem Column.absentIs_sequence : Json.AbsentIs Column.ofJson "sequence" (.integer 0) :=
  Json.absentIs_of_bind (by simp) fun without filled h => by
    simp [h.required, h.withDefault_self (Json.toInt64_toInt 0)]

/-- A project without slugs has an empty list of them. -/
theorem Project.absentIs_slugs : Json.AbsentIs Project.ofJson "slugs" (.array []) :=
  Json.absentIs_of_bind (by simp) fun without filled h => by
    simp [h.required, h.withDefault, h.withDefault_self (Json.toList_strings [])]

/-- A project without columns has an empty list of them: it is no workboard. -/
theorem Project.absentIs_columns : Json.AbsentIs Project.ofJson "columns" (.array []) :=
  Json.absentIs_of_bind (by simp) fun without filled h => by
    simp [h.required, h.withDefault, h.withDefault_self (Json.toList_map Column.ofJson_toJson [])]

theorem StatusList.absentIs_open : Json.AbsentIs StatusList.ofJson "open" (.array []) :=
  Json.absentIs_of_bind (by simp) fun without filled h => by
    simp [h.withDefault, h.withDefault_self (Json.toList_strings [])]

theorem StatusList.absentIs_closed : Json.AbsentIs StatusList.ofJson "closed" (.array []) :=
  Json.absentIs_of_bind (by simp) fun without filled h => by
    simp [h.withDefault, h.withDefault_self (Json.toList_strings [])]

/-- Statuses without names have no display names. -/
theorem StatusList.absentIs_names : Json.AbsentIs StatusList.ofJson "names" (.object []) :=
  Json.absentIs_of_bind (by simp) fun without filled h => by
    simp [h.withDefault, h.withDefault_self (Dictionary.ofJson_toJson .empty)]

theorem Ticket.absentIs_projects : Json.AbsentIs Ticket.ofJson "projects" (.array []) :=
  Json.absentIs_of_bind (by simp) fun without filled h => by
    simp [h.required, h.withDefault, h.withDefault_self (Json.toList_strings [])]

/-- A ticket without columns is on no board. -/
theorem Ticket.absentIs_columns : Json.AbsentIs Ticket.ofJson "columns" (.object []) :=
  Json.absentIs_of_bind (by simp) fun without filled h => by
    simp [h.required, h.withDefault, h.withDefault_self (Dictionary.ofJson_toJson .empty)]

/-- A ticket without a history has not changed. -/
theorem Ticket.absentIs_history : Json.AbsentIs Ticket.ofJson "history" (.array []) :=
  Json.absentIs_of_bind (by simp) fun without filled h => by
    simp [h.required, h.withDefault, h.withDefault_self (Json.toList_map Change.ofJson_toJson [])]

theorem Snapshot.absentIs_projects : Json.AbsentIs Snapshot.ofJson "projects" (.array []) :=
  Json.absentIs_of_bind (by simp) fun without filled h => by
    simp [h.optional, h.withDefault, h.withDefault_self (Json.toList_map Project.ofJson_toJson [])]

/-- Statuses that are not listed are none. -/
theorem Snapshot.absentIs_statuses : Json.AbsentIs Snapshot.ofJson "statuses" .null :=
  Json.absentIs_of_bind (by simp) fun without filled h => by
    simp [h.optional_self, h.withDefault]

theorem Snapshot.absentIs_tasks : Json.AbsentIs Snapshot.ofJson "tasks" (.array []) :=
  Json.absentIs_of_bind (by simp) fun without filled h => by
    simp [h.optional, h.withDefault, h.withDefault_self (Json.toList_map Ticket.ofJson_toJson [])]

namespace Change

/-- Whether fields can be held is asked of each by itself. -/
theorem allFieldsHeld_insert (depth : Nat) (field : String × Json)
    (before after : List (String × Json)) :
    Json.allFieldsHeld depth (before ++ field :: after) =
      (field.2.isHeld depth && Json.allFieldsHeld depth (before ++ after)) := by
  induction before with
  | nil => rw [List.nil_append, List.nil_append, Json.allFieldsHeld]
  | cons other before ih =>
    rw [List.cons_append, List.cons_append, Json.allFieldsHeld, Json.allFieldsHeld, ih,
      Bool.and_left_comm]

/-- Taking off the tag leaves a field of another name where it is. -/
theorem splitField_insert {field : String × Json} (hTag : field.1 ≠ "field")
    {before after : List (String × Json)} (h : field.1 ∉ (before ++ after).map Prod.fst) :
    (∃ fault, splitField (.object (before ++ after)) = .error fault ∧
      splitField (.object (before ++ field :: after)) = .error fault) ∨
    ∃ tag left right, splitField (.object (before ++ after)) = .ok (tag, .object (left ++ right)) ∧
      splitField (.object (before ++ field :: after)) =
        .ok (tag, .object (left ++ field :: right)) ∧
      field.1 ∉ (left ++ right).map Prod.fst := by
  -- the new field is no tag, so there are as many tags as before
  have hTags : (before ++ field :: after).filter (fun field => field.1 == "field") =
      (before ++ after).filter fun field => field.1 == "field" := by
    simp [hTag]
  -- and it stays where it was among the other fields
  have hRest : (before ++ field :: after).filter (fun field => field.1 != "field") =
      before.filter (fun field => field.1 != "field") ++
        field :: after.filter fun field => field.1 != "field" := by
    simp [hTag]
  have hAbsent : field.1 ∉ (before.filter (fun field => field.1 != "field") ++
      after.filter fun field => field.1 != "field").map Prod.fst := by
    rw [← List.filter_append]
    exact fun hMem => h ((List.filter_sublist.map Prod.fst).subset hMem)
  rw [splitField, splitField]
  simp only [hTags, hRest]
  -- one tag is taken off, and none or several are a fault
  split
  · exact .inr ⟨_, _, _, by rw [List.filter_append], rfl, hAbsent⟩
  · exact .inl ⟨_, rfl, rfl⟩
  · exact .inl ⟨_, rfl, rfl⟩

/-- An old value that is null is as good as none at all. -/
theorem eventOfRecord_of_fills {without filled : Json.Record}
    (h : Json.Fills "old" .null without filled) :
    eventOfRecord filled = eventOfRecord without := by
  simp [Change.eventOfRecord, h.optional_self, h.required]

/-- A change of a field without a board, once its tag is known. -/
theorem absentIs_old_of (field : Field) :
    Json.AbsentIs (fun rest => do
      let event ← eventOfRecord (← rest.toRecord ["old", "new", "at"])
      return ({ event with field } : Change)) "old" .null :=
  Json.absentIs_of_bind (by simp) fun without filled h => by
    rw [eventOfRecord_of_fills h]

/-- A change of column, once its tag is known. -/
theorem absentIs_old_of_column :
    Json.AbsentIs (fun rest => do
      let record ← rest.toRecord ["board", "old", "new", "at"]
      let board ← record.required "board" Json.toText
      let event ← eventOfRecord record
      return ({ event with field := .column board } : Change)) "old" .null :=
  Json.absentIs_of_bind (by simp) fun without filled h => by
    rw [h.required (by simp), eventOfRecord_of_fills h]

/-- A missing old value and one that is null are the same. -/
theorem absentIs_old : Json.AbsentIs Change.ofJson "old" .null := by
  intro before after hAbsent
  -- a null is not nested, so the value can be held with it when it can be without
  have hNull : Json.null.isHeld (openLimit - 4 - 1) = true := by simp [Json.isHeld]
  have hHeld : (Json.object (before ++ ("old", .null) :: after)).isHeld (openLimit - 4) =
      (Json.object (before ++ after)).isHeld (openLimit - 4) := by
    rw [Json.isHeld, Json.isHeld, allFieldsHeld_insert, hNull, Bool.true_and]
  rw [ofJson, ofJson, hHeld]
  rcases splitField_insert (show ("old", Json.null).1 ≠ "field" by simp) hAbsent with
    ⟨fault, hWithout, hFilled⟩ | ⟨tag, left, right, hWithout, hFilled, hLeft⟩
  · rw [hWithout, hFilled]
  · rw [hWithout, hFilled]
    -- the tag is the same, and it decides which fields are read
    simp only [Json.ok_bind]
    congr 1
    cases tag.toText with
    | error fault => rfl
    | ok name =>
      rw [Json.ok_bind, Json.ok_bind]
      split
      · exact absentIs_old_of .status left right hLeft
      · exact absentIs_old_of .priority left right hLeft
      · exact absentIs_old_of_column left right hLeft
      · rfl

end Change

/-! ## Loading what was written -/

/-- The names of the fields of an object. -/
def Json.names : Json → List String
  | .object fields => fields.map Prod.fst
  | _ => []

/-- A field that may be left out is read as its default, and is always written. -/
structure Json.IsFilledIn {α : Type} (decode : Json → Except Fault α) (encode : α → Json)
    (name : String) (default : Json) : Prop where
  absentIs : AbsentIs decode name default
  written : ∀ a, name ∈ (encode a).names

/-- The fields of a snapshot file, and of an event, that may be left out. -/
structure DefaultsFilledIn : Prop where
  old : Json.IsFilledIn Change.ofJson Change.toJson "old" .null
  sequence : Json.IsFilledIn Column.ofJson Column.toJson "sequence" (.integer 0)
  slugs : Json.IsFilledIn Project.ofJson Project.toJson "slugs" (.array [])
  columns : Json.IsFilledIn Project.ofJson Project.toJson "columns" (.array [])
  openKeys : Json.IsFilledIn StatusList.ofJson StatusList.toJson "open" (.array [])
  closedKeys : Json.IsFilledIn StatusList.ofJson StatusList.toJson "closed" (.array [])
  names : Json.IsFilledIn StatusList.ofJson StatusList.toJson "names" (.object [])
  ticketProjects : Json.IsFilledIn Ticket.ofJson Ticket.toJson "projects" (.array [])
  ticketColumns : Json.IsFilledIn Ticket.ofJson Ticket.toJson "columns" (.object [])
  history : Json.IsFilledIn Ticket.ofJson Ticket.toJson "history" (.array [])
  projects : Json.IsFilledIn Snapshot.ofJson Snapshot.toJson "projects" (.array [])
  tickets : Json.IsFilledIn Snapshot.ofJson Snapshot.toJson "tasks" (.array [])
  /-- Statuses that are not listed are left out again. -/
  statuses : Json.AbsentIs Snapshot.ofJson "statuses" .null
  /-- So is a prior state that there is none of. -/
  prior : Json.AbsentIs Event.ofJson "prior" .null

theorem defaultsFilledIn : DefaultsFilledIn where
  old := ⟨Change.absentIs_old, fun c => by
    simp [Change.toJson, Json.names]⟩
  sequence := ⟨Column.absentIs_sequence, fun c => by simp [Column.toJson, Json.names]⟩
  slugs := ⟨Project.absentIs_slugs, fun p => by simp [Project.toJson, Json.names]⟩
  columns := ⟨Project.absentIs_columns, fun p => by simp [Project.toJson, Json.names]⟩
  openKeys := ⟨StatusList.absentIs_open, fun s => by simp [StatusList.toJson, Json.names]⟩
  closedKeys := ⟨StatusList.absentIs_closed, fun s => by simp [StatusList.toJson, Json.names]⟩
  names := ⟨StatusList.absentIs_names, fun s => by simp [StatusList.toJson, Json.names]⟩
  ticketProjects := ⟨Ticket.absentIs_projects, fun t => by simp [Ticket.toJson, Json.names]⟩
  ticketColumns := ⟨Ticket.absentIs_columns, fun t => by simp [Ticket.toJson, Json.names]⟩
  history := ⟨Ticket.absentIs_history, fun t => by simp [Ticket.toJson, Json.names]⟩
  projects := ⟨Snapshot.absentIs_projects, fun s => by simp [Snapshot.toJson, Json.names]⟩
  tickets := ⟨Snapshot.absentIs_tasks, fun s => by simp [Snapshot.toJson, Json.names]⟩
  statuses := Snapshot.absentIs_statuses
  prior := Event.absentIs_prior

/-- **Loading undoes writing.** A snapshot that was loaded is loaded again from what is
written of it, and a map in it whatever the order is in which its entries are written. A
field that was left out is read as its default, and a missing old value as a null one; both
are written. An event is read back likewise, and its prior state is written if there is
one. A timestamp keeps its instant in the canonical form. -/
theorem loading_undoes_writing :
    (∀ text s, Snapshot.parse text = .ok s →
      Snapshot.parse s.toJson.text = Snapshot.parse text) ∧
    (∀ (d : Dictionary String) (entries : List (String × String)), entries.Perm d.entries →
      Dictionary.ofJson (.object (entries.map fun entry => (entry.1, .string entry.2))) = .ok d) ∧
    DefaultsFilledIn ∧
    (∀ value e, Event.ofJson value = .ok e →
      Event.ofJson e.toJson = Event.ofJson value ∧
        Json.parse? e.toJson.text = some e.toJson ∧
        ("prior" ∈ e.toJson.names ↔ e.prior.isSome = true)) ∧
    ∀ text t, Instant.parse? text = some t →
      Instant.parse? t.text = Instant.parse? text ∧ Timestamp.IsCanonical t.text := by
  -- what was loaded is what is written, so each part is a record that is read back
  refine ⟨fun text s h => ?_, fun d _ h => d.ofJson_of_perm h, defaultsFilledIn,
    fun value e h => ?_, fun text t h => ?_⟩
  · rw [h, s.parse_text]
  · rw [h]
    exact ⟨e.ofJson_toJson, e.isPlain_toJson.parse?_text, e.prior_mem_toFields_iff⟩
  · rw [h]
    exact ⟨t.parse?_text, t.isCanonical_text⟩

/-- The first half of the last second of 2016, which is a leap second. -/
def endOf2016 : Instant :=
  ⟨1483228799, 1250000000, by decide, by decide, by decide, by decide⟩

/-- The start of 2017. -/
def startOf2017 : Instant :=
  (Instant.ofParts? 1483228800 0).getD .earliest

/-- A snapshot file with a board, a status catalog and a ticket that changed its status, its
column and its priority. Fields are left out, one old value is null and another missing,
and the times have a leap second and an offset. -/
def sparseText : String :=
  String.join [
    "\x7b\"projects\":[\x7b\"id\":\"P1\",\"name\":\"Dev\",\"columns\":[",
    "\x7b\"id\":\"C1\",\"name\":\"Doing\"\x7d,",
    "\x7b\"sequence\":2,\"id\":\"C2\",\"name\":\"Done\"\x7d]\x7d],",
    "\"statuses\":\x7b\"open\":[\"a\"],\"names\":\x7b\"a\":\"Open\"\x7d\x7d,",
    "\"tasks\":[\x7b\"id\":7,\"title\":\"Tea\",\"status\":\"a\",\"priority\":\"80\",",
    "\"created_at\":\"2016-12-31T23:59:60.25Z\",",
    "\"updated_at\":\"2017-01-01 02:00:00+02:00\",",
    "\"projects\":[\"P1\"],\"columns\":\x7b\"P1\":\"C2\"\x7d,\"history\":[",
    "\x7b\"field\":\"status\",\"new\":\"a\",\"at\":\"2017-01-01T00:00:00Z\"\x7d,",
    "\x7b\"at\":\"2017-01-01T00:00:00Z\",\"new\":\"C2\",\"old\":\"C1\",",
    "\"board\":\"P1\",\"field\":\"column\"\x7d,",
    "\x7b\"field\":\"priority\",\"old\":null,\"new\":\"80\",",
    "\"at\":\"2017-01-01T00:00:00Z\"\x7d]\x7d]\x7d"]

/-- What is in that file. -/
def sparseSnapshot : Snapshot where
  projects := [{
    id := "P1"
    name := "Dev"
    columns := [⟨"C1", "Doing", 0⟩, ⟨"C2", "Done", 2⟩] }]
  statuses := some { openKeys := ["a"], names := Dictionary.ofList [("a", "Open")] }
  tickets := [{
    id := 7
    title := "Tea"
    status := "a"
    priority := "80"
    createdAt := endOf2016
    updatedAt := startOf2017
    projects := ["P1"]
    columns := Dictionary.ofList [("P1", "C2")]
    history := [
      { prior := none, next := "a", time := startOf2017, field := .status },
      { prior := some "C1", next := "C2", time := startOf2017, field := .column "P1" },
      { prior := none, next := "80", time := startOf2017, field := .priority }] }]

/-- An event as a file may have it, without a prior state and with an offset. -/
def sparseEvent : Json :=
  .object [("at", .string "2017-01-01t02:00:00+02:00"), ("new", .string "Doing")]

theorem loading_undoes_writing_sparse :
    Snapshot.parse sparseText = .ok sparseSnapshot ∧
      Snapshot.parse sparseSnapshot.toJson.text = Snapshot.parse sparseText ∧
      Dictionary.ofJson (.object [("b", .string "2"), ("a", .string "1")]) =
        .ok (Dictionary.ofList [("a", "1"), ("b", "2")]) ∧
      Event.ofJson sparseEvent = .ok ⟨⟨none, "Doing"⟩, startOf2017⟩ ∧
      Event.ofJson (Event.toJson ⟨⟨none, "Doing"⟩, startOf2017⟩) = Event.ofJson sparseEvent ∧
      Instant.parse? "2016-12-31T20:59:60.250-03:00" = some endOf2016 ∧
      Instant.parse? endOf2016.text = Instant.parse? "2016-12-31T20:59:60.250-03:00" ∧
      Timestamp.IsCanonical endOf2016.text := by
  have hParse : Snapshot.parse sparseText = .ok sparseSnapshot := by
    -- the text is read line by line, which is much shorter than as a whole
    rw [Snapshot.parse, Json.parse?, sparseText, String.toList_join]
    exact eq_ok_of_toOption (by decide +kernel)
  have hEvent : Event.ofJson sparseEvent = .ok ⟨⟨none, "Doing"⟩, startOf2017⟩ :=
    eq_ok_of_toOption (by decide +kernel)
  have hTime : Instant.parse? "2016-12-31T20:59:60.250-03:00" = some endOf2016 := by
    decide +kernel
  obtain ⟨hSnapshots, hMaps, -, hEvents, hInstants⟩ := loading_undoes_writing
  -- the entries of the map, in the order in which the file has them
  have hSwap : [("b", "2"), ("a", "1")].Perm (Dictionary.ofList [("a", "1"), ("b", "2")]).entries :=
    List.Perm.swap ("a", "1") ("b", "2") []
  exact ⟨hParse, hSnapshots _ _ hParse, hMaps _ _ hSwap, hEvent, (hEvents _ _ hEvent).1, hTime,
    hInstants _ _ hTime⟩

end TicketTrail
