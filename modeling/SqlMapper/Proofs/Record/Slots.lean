import SqlMapper.Proofs.Record.Fieldwise

/-! The fields of a struct as places in its objects. Columns, values and writing all follow the
same list of places, so that the entry at a position belongs to the field that declares the column
there, and a write reaches the first place with its column and no other. -/

namespace SqlMapper

namespace Fields

/-- A field that holds a native value, at any depth, whether or not it exists in the table. -/
inductive Slot : Fields → Type where
  | here {spec : FieldSpec} {type : FieldType} {rest : Fields} : Slot (.value spec type rest)
  | later {spec : FieldSpec} {type : FieldType} {rest : Fields} (s : Slot rest) :
    Slot (.value spec type rest)
  | inside {spec : FieldSpec} {inner rest : Fields} (s : Slot inner) :
    Slot (.nested spec inner rest)
  | after {spec : FieldSpec} {inner rest : Fields} (s : Slot rest) : Slot (.nested spec inner rest)

namespace Slot

def spec : {f : Fields} → Slot f → FieldSpec
  | .value spec _ _, .here => spec
  | _, .later s => s.spec
  | _, .inside s => s.spec
  | _, .after s => s.spec

def type : {f : Fields} → Slot f → FieldType
  | .value _ type _, .here => type
  | _, .later s => s.type
  | _, .inside s => s.type
  | _, .after s => s.type

def get : {f : Fields} → (s : Slot f) → f.Object → s.type.Value
  | _, .here, (v, _) => v
  | _, .later s, (_, vs) => s.get vs
  | _, .inside s, (v, _) => s.get v
  | _, .after s, (_, vs) => s.get vs

def set : {f : Fields} → (s : Slot f) → s.type.Value → f.Object → f.Object
  | _, .here, w, (_, vs) => (w, vs)
  | _, .later s, w, (v, vs) => (v, s.set w vs)
  | _, .inside s, w, (v, vs) => (s.set w v, vs)
  | _, .after s, w, (v, vs) => (v, s.set w vs)

/-- Whether the field exists in the table, and every struct that it is nested in. -/
def inTable : {f : Fields} → Slot f → Bool
  | .value spec _ _, .here => spec.exist
  | _, .later s => s.inTable
  | .nested spec _ _, .inside s => spec.exist && s.inTable
  | _, .after s => s.inTable

theorem get_set {f : Fields} (s : Slot f) (w : s.type.Value) (object : f.Object) :
    s.get (s.set w object) = w := by
  induction s with
  | here => rfl
  | later s ih => exact ih w object.2
  | inside s ih => exact ih w object.1
  | after s ih => exact ih w object.2

theorem set_get {f : Fields} (s : Slot f) (object : f.Object) :
    s.set (s.get object) object = object := by
  induction s with
  | here => rfl
  | later s ih => exact congrArg (Prod.mk object.1) (ih object.2)
  | inside s ih => exact congrArg (fun v => (v, object.2)) (ih object.1)
  | after s ih => exact congrArg (Prod.mk object.1) (ih object.2)

theorem get_set_of_ne {f : Fields} {s other : Slot f} (h : other ≠ s) (w : s.type.Value)
    (object : f.Object) : other.get (s.set w object) = other.get object := by
  induction s with
  | here =>
    cases other with
    | here => exact absurd rfl h
    | later other => rfl
  | later s ih =>
    cases other with
    | here => rfl
    | later other => exact ih (fun he => h (congrArg later he)) w object.2
  | inside s ih =>
    cases other with
    | inside other => exact ih (fun he => h (congrArg inside he)) w object.1
    | after other => rfl
  | after s ih =>
    cases other with
    | inside other => rfl
    | after other => exact ih (fun he => h (congrArg after he)) w object.2

end Slot

/-- The places that have a column, in the order of the columns. -/
def slots : (f : Fields) → List (Slot f)
  | .nil => []
  | .value spec _ rest => (if spec.exist then [.here] else []) ++ rest.slots.map .later
  | .nested spec inner rest =>
    (if spec.exist then inner.slots.map .inside else []) ++ rest.slots.map .after

theorem mem_slots_iff {f : Fields} (s : Slot f) : s ∈ f.slots ↔ s.inTable = true := by
  induction s with
  | here => simp [slots, Slot.inTable]
  | later s ih =>
    rw [slots, List.mem_append, List.mem_map_of_injective fun _ _ => Slot.later.inj, ih]
    simp [Slot.inTable]
  | inside s ih =>
    rw [slots, List.mem_append, Slot.inTable, Bool.and_eq_true, ← ih]
    simp
  | after s ih =>
    rw [slots, List.mem_append, List.mem_map_of_injective fun _ _ => Slot.after.inj, ih]
    simp [Slot.inTable]

theorem slots_nodup (f : Fields) : f.slots.Nodup := by
  induction f with
  | nil => exact List.nodup_nil
  | value spec type rest ih =>
    rw [slots, List.nodup_append]
    refine ⟨by split <;> simp, ih.map fun _ _ => Slot.later.inj, ?_⟩
    intro s hs t ht
    obtain ⟨t, -, rfl⟩ := List.mem_map.mp ht
    rintro rfl
    split at hs <;> simp at hs
  | nested spec inner rest ihi ih =>
    rw [slots, List.nodup_append]
    refine ⟨?_, ih.map fun _ _ => Slot.after.inj, ?_⟩
    · split
      · exact ihi.map fun _ _ => Slot.inside.inj
      · exact List.nodup_nil
    · intro s hs t ht
      obtain ⟨t, -, rfl⟩ := List.mem_map.mp ht
      rintro rfl
      split at hs <;> simp at hs

theorem columns_eq_map_slots (f : Fields) : f.columns = f.slots.map fun s => s.spec.columnMeta := by
  induction f with
  | nil => rfl
  | value spec type rest ih =>
    rw [columns, slots, List.map_append, List.map_map]
    by_cases he : spec.exist = true
    · rw [if_pos he, if_pos he, ih]
      rfl
    · rw [if_neg he, if_neg he, ih]
      rfl
  | nested spec inner rest ihi ih =>
    rw [columns, slots, List.map_append, List.map_map]
    by_cases he : spec.exist = true
    · rw [if_pos he, if_pos he, ihi, ih, List.map_map]
      rfl
    · rw [if_neg he, if_neg he, ih]
      rfl

theorem values_eq_map_slots (f : Fields) (object : f.Object) :
    f.values object = f.slots.map fun s => cell s.type (s.get object) := by
  induction f with
  | nil => rfl
  | value spec type rest ih =>
    obtain ⟨v, vs⟩ := object
    rw [values, slots, List.map_append, List.map_map]
    by_cases he : spec.exist = true
    · rw [if_pos he, if_pos he, ih]
      rfl
    · rw [if_neg he, if_neg he, ih]
      rfl
  | nested spec inner rest ihi ih =>
    obtain ⟨v, vs⟩ := object
    rw [values, slots, List.map_append, List.map_map]
    by_cases he : spec.exist = true
    · rw [if_pos he, if_pos he, ihi, ih, List.map_map]
      rfl
    · rw [if_neg he, if_neg he, ih]
      rfl

def slot? (f : Fields) (column : String) : Option (Slot f) :=
  f.slots.find? fun s => s.spec.column == column

theorem slot?_eq_none_iff {f : Fields} {column : String} :
    f.slot? column = none ↔ ∀ c ∈ f.columns, c.column ≠ column := by
  simp [slot?, columns_eq_map_slots, FieldSpec.column_columnMeta]

theorem slot?_value (spec : FieldSpec) (type : FieldType) (rest : Fields) (column : String) :
    (value spec type rest).slot? column =
      (if spec.exist && column == spec.column then some .here else none).or
        ((rest.slot? column).map .later) := by
  have hlater : (rest.slots.map (@Slot.later spec type rest)).find?
      (fun s => s.spec.column == column) = (rest.slot? column).map .later :=
    List.find?_map ..
  rw [slot?, slots, List.find?_append, hlater, Bool.beq_comm]
  cases spec.exist with
  | false => rfl
  | true => cases hc : spec.column == column <;> simp [Slot.spec, hc]

theorem slot?_nested (spec : FieldSpec) (inner rest : Fields) (column : String) :
    (nested spec inner rest).slot? column =
      (if spec.exist then (inner.slot? column).map .inside else none).or
        ((rest.slot? column).map .after) := by
  have hafter : (rest.slots.map (@Slot.after spec inner rest)).find?
      (fun s => s.spec.column == column) = (rest.slot? column).map .after :=
    List.find?_map ..
  have hinside : (inner.slots.map (@Slot.inside spec inner rest)).find?
      (fun s => s.spec.column == column) = (inner.slot? column).map .inside :=
    List.find?_map ..
  rw [slot?, slots, List.find?_append, hafter]
  cases spec.exist with
  | false => rfl
  | true => rw [if_pos rfl, if_pos rfl, hinside]

/-- What a call in place answers, which is whether some field took the value, and the object that
it leaves behind. -/
abbrev Answer (α : Type) : Type := Except DataError Bool × α

/-- The second of two places is asked only if the first one did not take the value. -/
def inTurn (here : Answer α) (there : Answer β) (vs : β) : Answer (α × β) :=
  match here with
  | (.ok false, v) => (there.1, v, there.2)
  | (answer, v) => (answer, v, vs)

/-- Takes what a value converts to, or keeps what is there. -/
def assign (type : FieldType) (x : SqlValue) (v : type.Value) : Answer type.Value :=
  match type.ofSql x with
  | .error e => (.error e, v)
  | .ok w => (.ok true, w)

/-- The write into the field of a column, done in place. -/
def write (column : String) (x : SqlValue) : (f : Fields) → f.Object → Answer f.Object
  | .nil, _ => (.ok false, ())
  | .value spec type rest, (v, vs) =>
    inTurn (if spec.exist && column == spec.column then assign type x v else (.ok false, v))
      (rest.write column x vs) vs
  | .nested spec inner rest, (v, vs) =>
    inTurn (if spec.exist then inner.write column x v else (.ok false, v))
      (rest.write column x vs) vs

def assignAt {f : Fields} (x : SqlValue) (object : f.Object) : Option (Slot f) → Answer f.Object
  | none => (.ok false, object)
  | some s => ((assign s.type x (s.get object)).1, s.set (assign s.type x (s.get object)).2 object)

theorem assign_fst_ne (type : FieldType) (x : SqlValue) (v : type.Value) :
    (assign type x v).1 ≠ .ok false := by
  rw [assign]
  cases type.ofSql x <;> simp

theorem assignAt_fst_ne {f : Fields} (s : Slot f) (x : SqlValue) (object : f.Object) :
    (assignAt x object (some s)).1 ≠ .ok false :=
  assign_fst_ne s.type x (s.get object)

theorem inTurn_some {here : Answer α} (h : here.1 ≠ .ok false) (there : Answer β) (vs : β) :
    inTurn here there vs = (here.1, here.2, vs) := by
  rcases here with ⟨_ | _ | _, v⟩
  · rfl
  · exact absurd rfl h
  · rfl

theorem write_eq (f : Fields) (column : String) (x : SqlValue) (object : f.Object) :
    f.write column x object = assignAt x object (f.slot? column) := by
  induction f with
  | nil => rfl
  | value spec type rest ih =>
    obtain ⟨v, vs⟩ := object
    rw [write, slot?_value, ih vs]
    split
    · rw [inTurn_some (assign_fst_ne type x v)]
      rfl
    · cases rest.slot? column <;> rfl
  | nested spec inner rest ihi ih =>
    obtain ⟨v, vs⟩ := object
    rw [write, slot?_nested, ih vs, ihi v]
    split
    · cases inner.slot? column with
      | none => cases rest.slot? column <;> rfl
      | some s =>
        rw [inTurn_some (assignAt_fst_ne s x v)]
        rfl
    · cases rest.slot? column <;> rfl

theorem write_snd_eq_self {f : Fields} {column : String} {x : SqlValue} {object : f.Object}
    (h : (f.write column x object).1 = .ok false) : (f.write column x object).2 = object := by
  -- a place that is found answers with success or an error, never that there is none
  rw [write_eq] at h ⊢
  cases hs : f.slot? column with
  | none => rfl
  | some s =>
    rw [hs] at h
    exact absurd h (assignAt_fst_ne s x object)

def Answer.written? (answer : Answer α) : Except DataError (Option α) :=
  answer.1.map fun found => if found = true then some answer.2 else none

theorem written?_inTurn {here : Answer α} {there : Answer β} {v : α} {vs : β}
    (h : here.1 = .ok false → here.2 = v) :
    (inTurn here there vs).written? = firstOf true here.written? there.written? v vs := by
  rcases here with ⟨_ | _ | _, w⟩
  · rfl
  · obtain rfl : w = v := h rfl
    rcases there with ⟨_ | _ | _, ws⟩ <;> rfl
  · rfl

theorem fill_eq_written? (f : Fields) (column : String) (x : SqlValue) (object : f.Object) :
    f.fill column x object = (f.write column x object).written? := by
  induction f with
  | nil => rfl
  | value spec type rest ih =>
    obtain ⟨v, vs⟩ := object
    rw [write, written?_inTurn (v := v), fill_value, ih vs, take]
    · by_cases hc : column = spec.column
      · rw [if_pos hc, hc, beq_self_eq_true, Bool.and_true, assign]
        cases spec.exist with
        | false => rfl
        | true => cases type.ofSql x <;> rfl
      · rw [if_neg hc, beq_eq_false_iff_ne.mpr hc, Bool.and_false]
        cases spec.exist <;> rfl
    · split
      · exact fun h => absurd h (assign_fst_ne type x v)
      · exact fun _ => rfl
  | nested spec inner rest ihi ih =>
    obtain ⟨v, vs⟩ := object
    rw [write, written?_inTurn (v := v), fill_nested, ih vs, ihi v]
    · cases spec.exist <;> rfl
    · split
      · exact write_snd_eq_self
      · exact fun _ => rfl

end Fields

namespace Record

open Fields (Slot)

/-- Columns and values follow one list of places, and a write reaches the first place that declares
its column. There it sets what the value converts to and nothing else; where no place declares the
column or the value does not convert, the object stays as it was. -/
theorem slots_aligned (r : Record) (object : r.Object) :
    let slots := r.fields.slots
    (slots.Nodup ∧ ∀ s, s ∈ slots ↔ s.inTable = true) ∧
    r.tableMeta.columns = slots.map (fun s => s.spec.columnMeta) ∧
    r.criteria.values object = slots.map (fun s =>
      if s.type.isZero (s.get object) then none else some (s.type.toSql (s.get object))) ∧
    ∀ column x,
      let result := r.fields.write column x object
      r.criteria.fill column x object =
        result.1.map (fun found => if found = true then some result.2 else none) ∧
      (result.1 = .ok false ↔ ∀ c ∈ r.tableMeta.columns, c.column ≠ column) ∧
      match slots.find? fun s => s.spec.column == column with
      | none => result = (.ok false, object)
      | some s =>
        match s.type.ofSql x with
        | .error e => result = (.error e, object)
        | .ok w => ∃ after, result = (.ok true, after) ∧ s.get after = w ∧
          ∀ other : Slot r.fields, other ≠ s → other.get after = other.get object := by
  intro slots
  refine ⟨⟨r.fields.slots_nodup, Fields.mem_slots_iff⟩, r.fields.columns_eq_map_slots,
    r.fields.values_eq_map_slots object, fun column x => ?_⟩
  intro result
  have hresult : result = Fields.assignAt x object (r.fields.slot? column) :=
    r.fields.write_eq column x object
  refine ⟨r.fields.fill_eq_written? column x object, ?_, ?_⟩
  · refine Iff.trans ?_ Fields.slot?_eq_none_iff
    rw [hresult]
    cases r.fields.slot? column with
    | none => exact iff_of_true rfl rfl
    | some s => exact iff_of_false (Fields.assignAt_fst_ne s x object) (by simp)
  · rw [hresult]
    change match r.fields.slot? column with | none => _ | some s => _
    cases r.fields.slot? column with
    | none => rfl
    | some s =>
      simp only [Fields.assignAt, Fields.assign]
      cases s.type.ofSql x with
      | error e => exact congrArg (Prod.mk _) (s.set_get object)
      | ok w =>
        exact ⟨s.set w object, rfl, s.get_set w object,
          fun other h => Slot.get_set_of_ne h w object⟩

end Record

end SqlMapper
