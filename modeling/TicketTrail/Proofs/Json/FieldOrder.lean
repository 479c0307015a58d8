import Mathlib.Data.List.Nodup
import TicketTrail.Search.Hit

/-!
# The order of fields

Of an object the names of the fields matter and what their values are, and not the
order in which they are written, as long as no name is written twice. So a value whose
objects have each name once is the same value when its fields are sorted.

Main results:

* `Json.DistinctNames.sameValue_sortKeys` — sorting the fields keeps the value;
* `Hit.distinctNames_allToJson` — hits are written with each name once.
-/

namespace TicketTrail

namespace Json

/-! ## Same values -/

/-- The two are one value written twice: arrays have the same items, and objects the
same fields, each name once, in any order. -/
inductive SameValue : Json → Json → Prop where
  | same (v : Json) : SameValue v v
  | array {items items' : List Json} (length : items.length = items'.length)
      (each : ∀ (i : Nat) v v', items[i]? = some v → items'[i]? = some v' → SameValue v v') :
      SameValue (array items) (array items')
  | object {fields fields' : List (String × Json)} (once : (fields.map Prod.fst).Nodup)
      (names : (fields'.map Prod.fst).Perm (fields.map Prod.fst))
      (each : ∀ name v v', (name, v) ∈ fields → (name, v') ∈ fields' → SameValue v v') :
      SameValue (object fields) (object fields')

/-- No object in the value has two fields of one name. -/
inductive DistinctNames : Json → Prop where
  | null : DistinctNames null
  | bool (b : Bool) : DistinctNames (bool b)
  | integer (n : Int) : DistinctNames (integer n)
  | decimal (text : String) : DistinctNames (decimal text)
  | string (s : String) : DistinctNames (string s)
  | garbled : DistinctNames garbled
  | array {items : List Json} (each : ∀ v ∈ items, DistinctNames v) : DistinctNames (array items)
  | object {fields : List (String × Json)} (once : (fields.map Prod.fst).Nodup)
      (each : ∀ field ∈ fields, DistinctNames field.2) : DistinctNames (object fields)

theorem distinctNames_strings (l : List String) : (strings l).DistinctNames :=
  .array (List.forall_mem_map.mpr fun s _ => .string s)

/-! ## Sorting -/

/-- Inserting a field moves fields about, and drops or repeats none of them. -/
theorem insertField_perm (field : String × Json) (fields : List (String × Json)) :
    (insertField field fields).Perm (field :: fields) := by
  induction fields with
  | nil => rfl
  | cons other rest ih =>
    rw [insertField]
    split
    · rfl
    · -- the field passes the other one and goes on
      exact (ih.cons other).trans (List.Perm.swap field other rest)

/-- Arrays keep their order: each item is sorted by itself. -/
theorem sortKeysAll_eq_map (items : List Json) : sortKeysAll items = items.map sortKeys := by
  induction items with
  | nil => rfl
  | cons item rest ih => rw [sortKeysAll, ih, List.map_cons]

/-- The fields of an object, sorted, are its fields with their values sorted. -/
theorem sortKeysFields_perm (fields : List (String × Json)) :
    (sortKeysFields fields).Perm (fields.map fun field => (field.1, sortKeys field.2)) := by
  induction fields with
  | nil => rfl
  | cons field rest ih => exact (insertField_perm _ _).trans (ih.cons _)

/-- **Sorting the fields keeps the value**, when no name is written twice. -/
theorem DistinctNames.sameValue_sortKeys {v : Json} (h : v.DistinctNames) :
    v.SameValue v.sortKeys := by
  -- the induction is on the names being distinct, which follows the value: an array is
  -- compared item by item, an object field by field
  induction h with
  | null | bool b | integer n | decimal text | string s | garbled => exact .same _
  | @array items each ih =>
    rw [sortKeys, sortKeysAll_eq_map]
    refine .array (List.length_map _).symm fun i v v' hv hv' => ?_
    -- the item at a place is the sorted item from that place
    rw [List.getElem?_map, hv, Option.map_some, Option.some.injEq] at hv'
    rw [← hv']
    exact ih v (List.mem_of_getElem? hv)
  | @object fields once each ih =>
    have hPerm := sortKeysFields_perm fields
    have hNames := hPerm.map Prod.fst
    rw [List.map_map] at hNames
    rw [sortKeys]
    refine .object once hNames fun name v v' hv hv' => ?_
    -- a field of this name stands for the only one that there was
    obtain ⟨field, hField, hEq⟩ := List.mem_map.mp (hPerm.mem_iff.mp hv')
    obtain ⟨rfl, rfl⟩ := Prod.mk.inj hEq
    have hSame : field = (field.1, v) := List.inj_on_of_nodup_map once hField hv rfl
    rw [hSame]
    exact ih _ hv

end Json

/-! ## Hits in JSON -/

namespace Event

/-- The fields of an event have names of their own, which the name of a board does not
meet. -/
theorem nodup_toFields (e : Event) : ("board" :: e.toFields.map Prod.fst).Nodup := by
  rw [toFields]
  cases e.prior <;> simp

/-- The fields of an event hold texts, in which no name can repeat. -/
theorem distinctNames_toFields (e : Event) : ∀ field ∈ e.toFields, field.2.DistinctNames := by
  have hLast : ∀ field ∈ [("new", Json.string e.next), ("at", e.time.toJson)],
      field.2.DistinctNames :=
    List.forall_mem_cons.mpr ⟨.string _, List.forall_mem_cons.mpr ⟨.string _, nofun⟩⟩
  rw [toFields]
  cases e.prior with
  | none => exact hLast
  | some prior => exact List.forall_mem_cons.mpr ⟨.string prior, hLast⟩

/-- An event is written with each name once. -/
theorem distinctNames_toJson (e : Event) : e.toJson.DistinctNames :=
  .object (List.nodup_cons.mp e.nodup_toFields).2 e.distinctNames_toFields

end Event

/-- An event of a board has the name of the board in front, and each name once all the
same. -/
theorem BoardEvent.distinctNames_toJson (e : BoardEvent) : e.toJson.DistinctNames :=
  .object e.nodup_toFields (List.forall_mem_cons.mpr ⟨.string _, e.distinctNames_toFields⟩)

/-- The three lists of a trail stand under names of their own. -/
theorem Trail.distinctNames_toJson (trail : Trail) : trail.toJson.DistinctNames := by
  have hColumns : (Json.array (trail.columns.map BoardEvent.toJson)).DistinctNames :=
    .array (List.forall_mem_map.mpr fun e _ => e.distinctNames_toJson)
  have hEvents : ∀ events : List Event, (Json.array (events.map Event.toJson)).DistinctNames :=
    fun events => .array (List.forall_mem_map.mpr fun e _ => e.distinctNames_toJson)
  refine .object (by simp) ?_
  simp only [List.forall_mem_cons]
  exact ⟨hColumns, hEvents _, hEvents _, nofun⟩

/-- The fields that tell the grounds hold texts and one list of texts. -/
theorem Grounds.distinctNames_toFields (g : Grounds) :
    ∀ field ∈ g.toFields, field.2.DistinctNames := by
  intro field hField
  simp only [toFields, patternField, List.mem_append, List.mem_map] at hField
  -- the boards are told when there are some, each pattern when it was found
  rcases hField with (hField | ⟨t, -, rfl⟩) | ⟨t, -, rfl⟩
  · split at hField
    · cases hField
    · rw [List.mem_singleton.mp hField]
      exact Json.distinctNames_strings g.boards
  · exact .string t
  · exact .string t

/-- A hit is written with each name once, whichever of its fields are told. -/
theorem Hit.distinctNames_toJson (hit : Hit) : hit.toJson.DistinctNames := by
  refine .object ?_ ?_
  · -- of the fields that can be missing each has a name of its own
    cases hit.trail <;> cases hit.grounds with
    | none => simp
    | some g =>
      simp only [Option.map_some, Option.getD_some, Grounds.toFields, Grounds.patternField]
      split <;> cases g.priority <;> cases g.status <;> simp
  · -- the fields that are always told come first, then the grounds, then the trail
    simp only [List.forall_mem_append, List.forall_mem_cons]
    refine ⟨⟨⟨.string _, .string _, .string _, .string _, Json.distinctNames_strings _, nofun⟩, ?_⟩,
      ?_⟩
    · cases hit.grounds with
      | none => exact nofun
      | some g => exact g.distinctNames_toFields
    · exact List.forall_mem_map.mpr fun trail _ => trail.distinctNames_toJson

/-- No hit is written with two fields of one name. -/
theorem Hit.distinctNames_allToJson (hits : List Hit) : (Hit.allToJson hits).DistinctNames :=
  .array (List.forall_mem_map.mpr fun hit _ => hit.distinctNames_toJson)

end TicketTrail
