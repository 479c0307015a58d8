import Mathlib.Data.List.Forall2
import TicketTrail.Json.Decoder
import TicketTrail.Proofs.FirstFailure

/-!
# Records that are read back

A record that was written with fields of its own, each once, is read as those fields.
A field that may be left out is read as its default: whether the default is written or
nothing is, every other field is looked up as before, and the answer is the same, a
fault included.

Main results:

* `toRecord_of_nodup` — the fields of a record that was written;
* `toList_map` — lists whose items are read back are read back;
* `absentIs_of_bind` — a field that is left out stands for its default.
-/

namespace TicketTrail.Json

/-! ## What was written -/

/-- Among names without repetition none is reported. -/
theorem firstRepeated?_of_nodup {names : List String} (h : names.Nodup) :
    firstRepeated? names = none := by
  induction names with
  | nil => rfl
  | cons name rest ih =>
    obtain ⟨hNew, hRest⟩ := List.nodup_cons.mp h
    rw [firstRepeated?, if_neg (by simpa using hNew), ih hRest]

/-- Fields of a record, each once, are read as they are. -/
theorem toRecord_of_nodup {names : List String} {fields : List (String × Json)}
    (hKnown : ∀ field ∈ fields, field.1 ∈ names) (hOnce : (fields.map Prod.fst).Nodup) :
    toRecord names (object fields) = .ok fields := by
  -- no field is unknown, so none is dropped before the names are compared
  have hAll : (fields.filter fun field => names.contains field.1) = fields :=
    List.filter_eq_self.mpr fun field hField => by simpa using hKnown field hField
  rw [toRecord, recordOfFields]
  simp only [hAll, firstRepeated?_of_nodup hOnce]

@[simp] theorem ok_bind {α β : Type} (a : α) (f : α → Except Fault β) :
    (Except.ok a >>= f) = f a :=
  rfl

@[simp] theorem toText_string (s : String) : toText (string s) = .ok s := rfl

@[simp] theorem toOption_null {α : Type} (decode : Json → Except Fault α) :
    toOption decode null = .ok none :=
  rfl

@[simp] theorem toOption_toText_string (s : String) :
    toOption toText (string s) = .ok (some s) :=
  rfl

/-- An optional text is read back, also when it is missing and written as null. -/
theorem toOption_ofOption (s : Option String) : toOption toText (ofOption s) = .ok s := by
  cases s <;> rfl

/-- A signed word is read back from its integer: it is within the bounds that are checked. -/
theorem toInt64_toInt (n : Int64) : toInt64 (integer n.toInt) = .ok n := by
  rw [toInt64, if_pos ⟨n.minValue_le_toInt, n.toInt_le⟩, Int64.ofInt_toInt]

theorem toUInt64_toNat (n : UInt64) : toUInt64 (integer n.toNat) = .ok n := by
  have hLt := n.toNat_lt_size
  rw [toUInt64, if_pos (by omega), Int.toNat_natCast, UInt64.ofNat_toNat]

namespace Record

variable {α : Type} {name other : String} {value : Json} {decode : Json → Except Fault α}

/-- A required field is found at the front of a record. -/
@[simp] theorem required_cons_self (record : Record) :
    Record.required ((name, value) :: record) name decode = decode value := by
  rw [required, List.lookup_cons_self]

/-- The search for a required field goes past a field of another name. -/
@[simp] theorem required_cons_of_ne (h : name ≠ other) (record : Record) :
    Record.required ((other, value) :: record) name decode = record.required name decode := by
  rw [required, required, List.lookup_cons, beq_eq_false_iff_ne.mpr h]

@[simp] theorem withDefault_nil (a : α) : Record.withDefault [] name a decode = .ok a := rfl

/-- A field at the front of a record is read, whatever its default. -/
@[simp] theorem withDefault_cons_self (a : α) (record : Record) :
    Record.withDefault ((name, value) :: record) name a decode = decode value := by
  rw [withDefault, List.lookup_cons_self]

/-- The search for a field with a default goes past a field of another name. -/
@[simp] theorem withDefault_cons_of_ne (h : name ≠ other) (a : α) (record : Record) :
    Record.withDefault ((other, value) :: record) name a decode =
      record.withDefault name a decode := by
  rw [withDefault, withDefault, List.lookup_cons, beq_eq_false_iff_ne.mpr h]

end Record

/-- A list whose items are read back is read back. -/
theorem toList_map {α : Type} {decode : Json → Except Fault α} {encode : α → Json}
    (h : ∀ a, decode (encode a) = .ok a) (l : List α) :
    toList decode (array (l.map encode)) = .ok l := by
  rw [toList, list_mapM_eq_ok_iff, List.forall₂_map_left_iff, List.forall₂_same]
  exact fun a _ => h a

theorem toList_strings (l : List String) : toList toText (strings l) = .ok l :=
  toList_map toText_string l

/-- The entries of a map are read back under their keys, if their values are. -/
theorem toPairs_map {α : Type} {decode : Json → Except Fault α} {encode : α → Json}
    (h : ∀ a, decode (encode a) = .ok a) (l : List (String × α)) :
    toPairs decode (object (l.map fun entry => (entry.1, encode entry.2))) = .ok l := by
  rw [toPairs, list_mapM_eq_ok_iff, List.forall₂_map_left_iff, List.forall₂_same]
  intro entry _
  -- an entry is decoded under its key
  show (decode (encode entry.2)).map (fun a => (entry.1, a)) = .ok entry
  rw [h]
  rfl

/-! ## What was left out -/

/-- The second record has one field more than the first one. -/
structure Fills (name : String) (value : Json) (without filled : Record) : Prop where
  absent : without.lookup name = none
  present : filled.lookup name = some value
  others : ∀ other, other ≠ name → filled.lookup other = without.lookup other

/-- A name that is new makes no name come twice, wherever it is put. -/
theorem firstRepeated?_insert {name : String} {before after : List String}
    (h : name ∉ before ++ after) :
    firstRepeated? (before ++ name :: after) = firstRepeated? (before ++ after) := by
  -- the induction is on the names in front of the new one, each of which keeps its answer
  induction before with
  | nil =>
    rw [List.nil_append, firstRepeated?, if_neg (by simpa using h)]
    rfl
  | cons other before ih =>
    rw [List.cons_append, List.mem_cons, not_or] at h
    have hContains :
        (before ++ name :: after).contains other = (before ++ after).contains other := by
      simp [Ne.symm h.1]
    rw [List.cons_append, List.cons_append, firstRepeated?, firstRepeated?, ih h.2, hContains]

/-- What has no field of a name has no value for it. -/
theorem lookup_eq_none_of_not_mem {name : String} {record : Record}
    (h : name ∉ record.map Prod.fst) : record.lookup name = none := by
  rw [List.lookup_eq_none_iff]
  intro field hField
  exact bne_iff_ne.mpr fun hEq => h (hEq ▸ List.mem_map_of_mem hField)

/-- A field of a new name, put anywhere into a record, fills it. -/
theorem fills_insert {name : String} {value : Json} {before after : Record}
    (h : name ∉ (before ++ after).map Prod.fst) :
    Fills name value (before ++ after) (before ++ (name, value) :: after) := by
  have hBefore : name ∉ before.map Prod.fst := fun hMem =>
    h (by rw [List.map_append]; exact List.mem_append_left _ hMem)
  refine ⟨lookup_eq_none_of_not_mem h, ?_, fun other hOther => ?_⟩
  · -- the fields in front have other names, so the new one is found
    rw [List.lookup_append, lookup_eq_none_of_not_mem hBefore, List.lookup_cons_self]
    rfl
  · rw [List.lookup_append, List.lookup_append, List.lookup_cons, beq_eq_false_iff_ne.mpr hOther]

/-- Of a record with one field more, the readers of the other fields see nothing. -/
theorem toRecord_insert {names : List String} {name : String} (hName : name ∈ names)
    (value : Json) {before after : List (String × Json)}
    (h : name ∉ (before ++ after).map Prod.fst) :
    (∃ fault, toRecord names (object (before ++ after)) = .error fault ∧
      toRecord names (object (before ++ (name, value) :: after)) = .error fault) ∨
    ∃ without filled, toRecord names (object (before ++ after)) = .ok without ∧
      toRecord names (object (before ++ (name, value) :: after)) = .ok filled ∧
      Fills name value without filled := by
  -- the test for known names is kept closed, so that it is rewritten as one thing
  obtain ⟨known, hKnown⟩ : ∃ known : String × Json → Bool,
      known = fun field => names.contains field.1 := ⟨_, rfl⟩
  have hFilled : (before ++ (name, value) :: after).filter known =
      before.filter known ++ (name, value) :: after.filter known := by
    rw [List.filter_append, List.filter_cons_of_pos (by simpa [hKnown] using hName)]
  have hAbsent : name ∉ (before.filter known ++ after.filter known).map Prod.fst := by
    rw [← List.filter_append]
    exact fun hMem => h ((List.filter_sublist.map Prod.fst).subset hMem)
  -- a field of a new name makes no name come twice
  have hRepeated := firstRepeated?_insert (List.map_append ▸ hAbsent)
  rw [toRecord, toRecord, recordOfFields, recordOfFields]
  simp only [← hKnown, hFilled, List.filter_append, List.map_append, List.map_cons, hRepeated]
  cases firstRepeated?
    ((before.filter known).map Prod.fst ++ (after.filter known).map Prod.fst) with
  | some other => exact .inl ⟨_, rfl, rfl⟩
  | none => exact .inr ⟨_, _, rfl, rfl, fills_insert hAbsent⟩

/-- A field that is left out stands for its default: written or not, all is read alike. -/
def AbsentIs {α : Type} (decode : Json → Except Fault α) (name : String) (default : Json) : Prop :=
  ∀ before after : List (String × Json), name ∉ (before ++ after).map Prod.fst →
    decode (object (before ++ (name, default) :: after)) = decode (object (before ++ after))

/-- For a record to be read alike it is enough that the readers of its fields do not tell
the two apart. -/
theorem absentIs_of_bind {α : Type} {names : List String} {name : String} {default : Json}
    {f : Record → Except Fault α} (hName : name ∈ names)
    (h : ∀ without filled, Fills name default without filled → f filled = f without) :
    AbsentIs (fun value => toRecord names value >>= f) name default := by
  intro before after hAbsent
  -- either both records are refused with one fault, or both are read
  rcases toRecord_insert hName default hAbsent with
    ⟨fault, hWithout, hFilled⟩ | ⟨without, filled, hWithout, hFilled, hFills⟩
  · simp only [hWithout, hFilled]
  · simp only [hWithout, hFilled]
    exact h without filled hFills

section Fills

variable {α : Type} {name other : String} {value : Json} {without filled : Record}
  {decode : Json → Except Fault α}

/-- A required field of another name is looked up as before. -/
theorem Fills.required (h : Fills name value without filled) (hNe : other ≠ name) :
    filled.required other decode = without.required other decode := by
  rw [Record.required, Record.required, h.others other hNe]

theorem Fills.withDefault (h : Fills name value without filled) (hNe : other ≠ name) (a : α) :
    filled.withDefault other a decode = without.withDefault other a decode := by
  rw [Record.withDefault, Record.withDefault, h.others other hNe]

theorem Fills.optional (h : Fills name value without filled) (hNe : other ≠ name) :
    filled.optional other decode = without.optional other decode :=
  h.withDefault hNe none

/-- The default is what is read of a field that is left out. -/
theorem Fills.withDefault_self (h : Fills name value without filled) {a : α}
    (hDefault : decode value = .ok a) :
    filled.withDefault name a decode = without.withDefault name a decode := by
  rw [Record.withDefault, Record.withDefault, h.present, h.absent]
  exact hDefault

/-- An optional field that is left out is one that is null. -/
theorem Fills.optional_self (h : Fills name null without filled) :
    filled.optional name decode = without.optional name decode :=
  h.withDefault_self rfl

end Fills

end TicketTrail.Json
