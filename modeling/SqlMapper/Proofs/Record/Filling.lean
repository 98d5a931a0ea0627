import SqlMapper.Proofs.Criteria.Runs
import SqlMapper.Proofs.Record.Fieldwise

/-! Filling the objects of structs. Where columns are distinct, an object comes out of it with
what was made for its empty columns in the fields of just these columns. -/

namespace SqlMapper

namespace Fields

/-- What a field holds after some writes: the value written for its column, or else what it
held before. -/
def Holds (writes : List (String × SqlValue)) (column : String) (t : FieldType)
    (before after : t.Value) : Prop :=
  match writes.lookup column with
  | some x => t.ofSql x = .ok after
  | none => after = before

theorem fieldwise_holds_of_fill {f : Fields} (hf : f.columnNames.Nodup) {column : String}
    {x : SqlValue} {object : f.Object} {filled : Option f.Object}
    (h : f.fill column x object = .ok filled) :
    f.Fieldwise (Holds [(column, x)]) object (filled.getD object) := by
  have hkeep : ∀ c (t : FieldType) (v : t.Value), c ≠ column → Holds [(column, x)] c t v v := by
    intro c t v hc
    simp [Holds, OrderedMap.lookup_cons_eq, hc]
  cases filled with
  | none =>
    refine Fieldwise.refl (fun c hc t v => hkeep c t v ?_) object
    rintro rfl
    exact not_mem_of_fill_eq_none h hc
  | some object' =>
    refine fieldwise_of_fill h ?_ fun c t v hd => hkeep c t v fun hc => hd hc hf
    intro t v w hw
    simpa [Holds, OrderedMap.lookup_cons_eq] using hw

theorem Holds.cons {column : String} {x : SqlValue} {rest : List (String × SqlValue)}
    (hc : rest.lookup column = none) {c : String} {t : FieldType} {u v w : t.Value}
    (huv : Holds [(column, x)] c t u v) (hvw : Holds rest c t v w) :
    Holds ((column, x) :: rest) c t u w := by
  by_cases he : c = column
  · subst he
    obtain rfl : w = v := by simpa [Holds, hc] using hvw
    simpa [Holds, OrderedMap.lookup_cons_eq] using huv
  · obtain rfl : v = u := by simpa [Holds, OrderedMap.lookup_cons_eq, he] using huv
    simpa [Holds, OrderedMap.lookup_cons_eq, he] using hvw

end Fields

namespace Record

open Fields (Fieldwise Holds)

theorem fieldwise_of_writeBack {r : Record} (hr : r.fields.columnNames.Nodup)
    {writes : List (String × SqlValue)} (hw : (writes.map Prod.fst).Nodup)
    {object object' : r.Object} (h : r.criteria.writeBack writes object = .ok object') :
    r.fields.Fieldwise (Holds writes) object object' := by
  induction writes generalizing object with
  | nil =>
    obtain rfl : object = object' := Except.ok.inj h
    exact Fieldwise.refl (fun c _ t v => show Holds [] c t v v from rfl) object
  | cons write rest ih =>
    obtain ⟨column, x⟩ := write
    obtain ⟨hnot, hrest⟩ := List.nodup_cons.mp hw
    obtain ⟨filled, hfill, hafter⟩ := exists_of_bind_eq_ok h
    exact (Fields.fieldwise_holds_of_fill hr hfill).trans
      (fun _ _ _ _ _ => Holds.cons (OrderedMap.lookup_eq_none hnot)) (ih hrest hafter)

theorem columns_cells (r : Record) (object : r.Object) :
    (r.criteria.cells object).map (fun cell => cell.1.column) = r.fields.columnNames := by
  have hlen : r.fields.columns.length ≤ (r.fields.values object).length :=
    Nat.le_of_eq (r.fields.length_values object).symm
  have hfst : (r.criteria.cells object).map Prod.fst = r.fields.columns :=
    List.map_fst_zip hlen
  rw [Fields.columnNames, ← hfst, List.map_map]
  rfl

theorem zip_columnNames (r : Record) (object : r.Object) :
    r.fields.columnNames.zip (r.fields.values object) =
      (r.criteria.cells object).map fun cell => (cell.1.column, cell.2) := by
  rw [Fields.columnNames, List.zip_map_left]
  rfl

theorem lookup_of_nodup {written more : List (String × SqlValue)} {x : String × SqlValue}
    (h : ((written ++ x :: more).map Prod.fst).Nodup) :
    (written ++ x :: more).lookup x.1 = some x.2 := by
  rw [List.map_append, List.map_cons] at h
  have hnot : x.1 ∉ written.map Prod.fst := fun hx =>
    List.disjoint_of_nodup_append h hx List.mem_cons_self
  rw [List.lookup_append, OrderedMap.lookup_eq_none hnot, Option.none_or, OrderedMap.lookup_cons_eq,
    if_pos rfl]

theorem made_nodup {r : Record} (hr : r.fields.columnNames.Nodup) (fills : FillRegistry σ)
    (mode : Mode) (object : r.Object) (state : σ) :
    ((fills.made mode (r.criteria.cells object) state).1.map Prod.fst).Nodup :=
  FillRegistry.made_nodup (r.columns_cells object ▸ hr)

theorem fieldwise_fillObject {r : Record} (hr : r.fields.columnNames.Nodup)
    {fills : FillRegistry σ} {mode : Mode} {object : r.Object} {state : σ} {t : TableDescriptor}
    (h : r.criteria.describe (r.criteria.fillObject fills mode object state) = .ok t) :
    r.fields.Fieldwise (Holds (fills.made mode (r.criteria.cells object) state).1) object
      (r.criteria.fillObject fills mode object state).object :=
  fieldwise_of_writeBack hr (made_nodup hr fills mode object state)
    (Criteria.writeBack_of_describe_eq_ok h)

/-- What a field may hold once its object was filled: what it held before or, if that was empty, a
value that the function for its column made. -/
def Kept (fills : FillRegistry σ) (mode : Mode) (column : String) (t : FieldType)
    (before after : t.Value) : Prop :=
  after = before ∨ t.isZero before = true ∧ ∃ f state x,
    fills.function? mode column = some f ∧ (f state).1 = some x ∧ t.ofSql x = .ok after

theorem fieldwise_kept {r : Record} (hr : r.fields.columnNames.Nodup) {fills : FillRegistry σ}
    {mode : Mode} {before after : r.Object} {state : σ} {writes : List (String × SqlValue)}
    (hmade : writes <+: (fills.made mode (r.criteria.cells before) state).1)
    (h : r.criteria.writeBack writes before = .ok after) :
    r.fields.Fieldwise (Kept fills mode) before after := by
  have hnodup := (made_nodup hr fills mode before state).sublist (hmade.sublist.map _)
  refine (fieldwise_of_writeBack hr hnodup h).imp fun c t v w hcell hw => ?_
  cases hx : writes.lookup c with
  | none =>
    rw [Holds, hx] at hw
    exact .inl hw
  | some x =>
    rw [Holds, hx] at hw
    obtain ⟨l₁, l₂, hl, -⟩ := List.lookup_eq_some_iff.mp hx
    have hmem : (c, x) ∈ writes := by simp [hl]
    obtain ⟨⟨column, hcolumn, hempty⟩, f, state', hf, hv, -⟩ :=
      FillRegistry.exists_of_mem_made (hmade.subset hmem)
    have hfst : (r.fields.columnNames.zip (r.fields.values before)).map Prod.fst =
        r.fields.columnNames :=
      List.map_fst_zip (by simp [Fields.columnNames, Fields.length_values])
    have hcell' : (c, none) ∈ r.fields.columnNames.zip (r.fields.values before) := by
      rw [zip_columnNames]
      exact List.mem_map.mpr ⟨(column, none), hempty, by rw [hcolumn]⟩
    -- columns are distinct, so that the empty cell is that of the field
    have hzero : (c, Fields.cell t v) = (c, none) :=
      List.inj_on_of_nodup_map (hfst ▸ hr) hcell hcell' rfl
    refine .inr ⟨?_, f, state', x, hf, hv, hw⟩
    by_contra hz
    simp [Fields.cell, hz] at hzero

/-- A filling succeeds if and only if all that is made for the empty columns converts. -/
theorem describe_fillObject_isOk_iff {r : Record} (hr : r.fields.columnNames.Nodup)
    (fills : FillRegistry σ) (mode : Mode) (object : r.Object) (state : σ) :
    (∃ t, r.criteria.describe (r.criteria.fillObject fills mode object state) = .ok t) ↔
      ∃ after, r.fields.Fieldwise
        (Holds (fills.made mode (r.criteria.cells object) state).1) object after := by
  constructor
  · rintro ⟨t, ht⟩
    exact ⟨_, fieldwise_fillObject hr ht⟩
  · rintro ⟨after, hafter⟩
    cases hd : r.criteria.describe (r.criteria.fillObject fills mode object state) with
    | ok t => exact ⟨t, rfl⟩
    | error e =>
      -- the value that did not convert has a field that would have to hold it
      obtain ⟨writes, x, more, hmade, -, hx⟩ := Criteria.exists_of_describe_eq_error hd
      obtain ⟨t, v, w, herror, hholds⟩ := Fields.exists_of_fill_eq_error hx hafter
      have hnodup := made_nodup hr fills mode object state
      rw [hmade] at hnodup hholds
      rw [Holds, lookup_of_nodup hnodup] at hholds
      have hok : t.ofSql x.2 = .ok w := hholds
      rw [herror] at hok
      cases hok

/-- Filling succeeds as soon as all that is made for the empty columns converts. It then describes
every column with the object's own value, or else with the one made for it, and leaves the others
as they were. -/
theorem fillObject_exact (r : Record) (hr : r.fields.columnNames.Nodup)
    (rs : List (FillRegistration σ)) (mode : Mode) (object : r.Object) (state : σ) :
    let c := r.criteria
    let calls := FillFunction.calls (FillRegistry.last? rs mode) (c.cells object)
    let made := FillFunction.runAll calls state
    let result := c.fillObject (.ofRegistrations rs) mode object state
    ((∃ t, c.describe result = .ok t) ↔ ∃ after, r.fields.Fieldwise (Holds made.1) object after) ∧
    (∀ t, c.describe result = .ok t →
      t = c.table.describe ((c.cells object).map fun cell =>
        (cell.1, cell.2.or (made.1.lookup cell.1.column))) ∧
      result.state = made.2 ∧ r.fields.Fieldwise (Holds made.1) object result.object) ∧
    (mode = .read ∨ rs = [] →
      c.describe result = .ok (c.extract object) ∧ result.object = object ∧
        result.state = state) := by
  intro c calls made result
  have hmade : made =
      (FillRegistry.ofRegistrations rs).made mode (r.criteria.cells object) state := by
    rw [FillRegistry.made, funext (FillRegistry.function?_ofRegistrations rs mode)]
  refine ⟨?_, ?_, ?_⟩
  · rw [hmade]
    exact describe_fillObject_isOk_iff hr _ mode object state
  · intro t ht
    obtain ⟨hdescribe, hstate⟩ := Criteria.describe_fillObject_eq_ok ht
    have hcells := FillRegistry.cells_filled (.ofRegistrations rs) mode state
      ((r.columns_cells object).symm ▸ hr)
    rw [hmade, ← hcells]
    exact ⟨hdescribe, hstate.trans (FillRegistry.state_filled ..), fieldwise_fillObject hr ht⟩
  · intro hnone
    have hlast : ∀ column, (FillRegistry.ofRegistrations rs).function? mode column = none := by
      intro column
      rw [FillRegistry.function?_ofRegistrations]
      rcases hnone with rfl | rfl
      · exact FillRegistry.last?_read rs column
      · rfl
    exact c.fillObject_of_unregistered hlast object state

/-- Members with a stamp inside and a field outside of the table. -/
def members : Record where
  name := "Member"
  table := "member"
  fields :=
    .value ⟨"uid", "uid", "", "", true, true, false⟩ (.base .int64)
    (.value ⟨"cache", "cache", "", "", false, false, false⟩ (.base .text)
    (.nested ⟨"stamp", "stamp", "", "", false, true, true⟩
      (.value ⟨"createdBy", "created_by", "", "", false, true, false⟩ (.base .text)
      (.value ⟨"revision", "revision", "", "", false, true, false⟩ (.base .int64) .nil))
    (.value ⟨"nick", "nick", "", "", false, true, false⟩ (.option (.base .text)) .nil)))

def numbering : FillFunction Nat := fun n => (some (.bigint (.ofNat n)), n + 1)

/-- The number of a new key replaces the text registered first. -/
def memberFills : List (FillRegistration Nat) :=
  [⟨.insert, "uid", fun n => (some (.text "none"), n)⟩, ⟨.write, "uid", numbering⟩,
    ⟨.write, "created_by", numbering⟩, ⟨.update, "nick", numbering⟩,
    ⟨.insert, "nick", fun n => (some .null, n + 10)⟩, ⟨.write, "revision", numbering⟩]

theorem fillObject_members :
    let object : members.Object := (0, "kept", ("ann", 0, ()), none, ())
    let after : members.Object := (7, "kept", ("ann", 8, ()), none, ())
    let result := members.criteria.fillObject (.ofRegistrations memberFills) .insert object 7
    members.fields.columnNames.Nodup ∧
    (∃ t, members.criteria.describe result = .ok t ∧
      t.fields.map (fun f => (f.column, f.value)) =
        [("uid", .bigint 7), ("created_by", .text "ann"), ("revision", .bigint 8)]) ∧
    result.state = 19 ∧ result.object = after ∧
    (members.criteria.fillObject (.ofRegistrations memberFills) .read object 7).object = object := by
  intro object after result
  have hdistinct : members.fields.columnNames.Nodup := by decide
  obtain ⟨hok, hexact, -⟩ := fillObject_exact members hdistinct memberFills .insert object 7
  obtain ⟨-, -, hread⟩ := fillObject_exact members hdistinct memberFills .read object 7
  obtain ⟨t, ht⟩ := hok.mpr ⟨after, ⟨rfl, rfl, ⟨rfl, rfl, trivial⟩, rfl, trivial⟩⟩
  obtain ⟨rfl, hstate, huid, hcache, ⟨hby, hrevision, -⟩, hnick, -⟩ := hexact t ht
  have hstamp : result.object.2.2.1 = after.2.2.1 :=
    Prod.ext hby (Prod.ext (Except.ok.inj hrevision).symm rfl)
  have hafter : result.object = after :=
    Prod.ext (Except.ok.inj huid).symm (Prod.ext hcache (Prod.ext hstamp (Prod.ext hnick rfl)))
  exact ⟨hdistinct, ⟨_, ht, rfl⟩, hstate, hafter, (hread (.inl rfl)).2.1⟩

end Record

end SqlMapper
