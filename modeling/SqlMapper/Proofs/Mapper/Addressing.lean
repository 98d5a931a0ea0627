import SqlMapper.Proofs.Criteria.Runs
import SqlMapper.Proofs.Mapper.Entities
import SqlMapper.Proofs.Mapper.Safety
import SqlMapper.Proofs.Mapper.Scalars

/-! The rows that an update addresses. A condition is on the entity's own value, or, where the entity
has none, on the one that was made for its column: updates fill all empty fields, the key among
them, before they take their conditions. -/

namespace SqlMapper

namespace FillRegistry

/-- Where the value of a column comes from after filling: a field of the entity, or a run of the
function that is registered for the column of an empty one. -/
inductive Origin (r : FillRegistry σ) (mode : Mode) (cells : List Cell) (state : σ)
    (x : String × SqlValue) : Prop
  | own (column : ColumnMeta) (name : column.column = x.1) (mem : (column, some x.2) ∈ cells)
  | made (column : ColumnMeta) (name : column.column = x.1) (empty : (column, none) ∈ cells)
    (registered : (r.function? mode x.1).isSome = true) (mem : x ∈ (r.made mode cells state).1)

theorem mem_filled {r : FillRegistry σ} {mode : Mode} {cells : List Cell} {state : σ}
    {column : ColumnMeta} {v : SqlValue} (h : (column, some v) ∈ (r.filled mode cells state).1) :
    (column, some v) ∈ cells ∨
      (column, none) ∈ cells ∧ (column.column, v) ∈ (r.made mode cells state).1 := by
  induction cells generalizing state with
  | nil => simp [filled] at h
  | cons cell rest ih =>
    obtain ⟨name, value⟩ := cell
    cases value with
    | some w =>
      rw [filled, List.mem_cons] at h
      rw [made_cons_some]
      obtain heq | h := h
      · exact .inl (heq ▸ List.mem_cons_self)
      · exact (ih h).imp (List.mem_cons_of_mem _) fun h => ⟨List.mem_cons_of_mem _ h.1, h.2⟩
    | none =>
      rw [filled, List.mem_cons] at h
      rw [made_cons_none]
      obtain heq | h := h
      · obtain ⟨rfl, hv⟩ := Prod.mk.inj heq
        exact .inr ⟨List.mem_cons_self, by simp [← hv]⟩
      · exact (ih h).imp (List.mem_cons_of_mem _) fun h =>
          ⟨List.mem_cons_of_mem _ h.1, List.mem_append_right _ h.2⟩

end FillRegistry

theorem TableMeta.mem_of_field? {t : TableMeta} {cells : List Cell} {column : String}
    {f : FieldDescriptor} (h : (t.describe cells).field? column = some f) :
    ∃ c : ColumnMeta, c.column = column ∧ f.cell = (column, f.value) ∧ (c, some f.value) ∈ cells := by
  have hname : f.column = column := by simpa using List.find?_some h
  have hmem : f ∈ (t.describe cells).fields := List.mem_of_find?_eq_some h
  obtain ⟨⟨c, value⟩, hcell, hf⟩ := List.mem_filterMap.mp hmem
  obtain ⟨v, rfl, rfl⟩ := Option.map_eq_some_iff.mp hf
  exact ⟨c, hname, congrArg (·, v) hname, hcell⟩

theorem Mapper.updateByKey_of_keyless {t : TableDescriptor} {key : String}
    (hkey : t.primaryKey = some key) (h : t.field? key = none) :
    updateByKey t = .error (.missingIdent (.value key)) := by
  simp [updateByKey, hkey, h]

namespace Write

/-- The entity of an update. -/
def updated? : Write α → Option α
  | .update _ entity => some entity
  | .updateById entity => some entity
  | _ => none

/-- The columns that an update has conditions on. -/
def conditions (t : TableMeta) : Write α → List String
  | .update conditions _ => conditions
  | .updateById _ => (t.primaryKey?.map (·.column)).toList
  | _ => []

variable {m : Mapper τ σ} {c : Criteria α} {s : Session τ σ}

theorem update_of_prepare {w : Write α} {entity : α} (hw : w.updated? = some entity)
    {st : Statement} (h : (w.prepare m c s).1 = .ok st) :
    Dialect.mysql.update
      (c.table.describe (m.fills.filled .update (c.cells entity) s.fillState).1)
      (w.conditions c.table) = .ok st := by
  cases w with
  | update conditions entity' =>
    obtain rfl := Option.some.inj hw
    rw [prepare] at h
    split at h
    · simp at h
    · have hst := eq_ok_of_prepareEntity h
      exact hst
  | updateById entity' =>
    obtain rfl := Option.some.inj hw
    rw [prepare] at h
    obtain ⟨column, hkey, hst⟩ := Mapper.update_of_updateByKey (eq_ok_of_prepareEntity h)
    have hkey' : c.table.primaryKey?.map (·.column) = some column := hkey
    rw [conditions, hkey']
    exact hst
  | _ => simp [updated?] at hw

theorem origin_of_field? {fills : FillRegistry σ} {mode : Mode} {cells : List Cell} {state : σ}
    {t : TableMeta} {column : String} {f : FieldDescriptor}
    (h : (t.describe (fills.filled mode cells state).1).field? column = some f) :
    f.column = column ∧ fills.Origin mode cells state f.cell := by
  obtain ⟨field, rfl, hcell, hmem⟩ := TableMeta.mem_of_field? h
  refine ⟨congrArg Prod.fst hcell, ?_⟩
  rw [hcell]
  obtain hown | ⟨hempty, hmade⟩ := FillRegistry.mem_filled hmem
  · exact .own field rfl hown
  · obtain ⟨-, g, -, hg, -⟩ := FillRegistry.exists_of_mem_made hmade
    exact .made field rfl hempty (by rw [hg]; rfl) hmade

theorem origin_of_addressed {fills : FillRegistry σ} {mode : Mode} {cells : List Cell} {state : σ}
    {t : TableMeta} {columns : List String} {addressed : List (String × SqlValue)}
    (h : columns.mapM (Dialect.conditionCell (t.describe (fills.filled mode cells state).1)) =
      .ok addressed) :
    ∀ cell ∈ addressed, fills.Origin mode cells state cell := by
  rw [Dialect.cells_of_mapM_conditionCell h]
  refine List.forall_mem_map.mpr fun f hf => ?_
  obtain ⟨column, -, hfound⟩ := List.mem_filterMap.mp hf
  exact (origin_of_field? hfound).2

/-- Without a value of its own or a made one for its key, an entity names no row. -/
theorem prepare_of_keyless {key : ColumnMeta} (hkey : c.table.primaryKey? = some key) {entity : α}
    (hempty : ∀ cell ∈ c.cells entity, cell.1.column = key.column → cell.2 = none)
    (hmade : ∀ v, (key.column, v) ∉ (m.fills.made .update (c.cells entity) s.fillState).1) :
    ∃ e, ((Write.updateById entity).prepare m c s).1 = .error e ∧
      match c.describe (c.fillObject m.fills .update entity s.fillState) with
      | .error cause => e = .data cause
      | .ok _ => e = .missingIdent (.value key.column) := by
  rw [prepare, prepareEntity]
  cases hd : c.describe (c.fillObject m.fills .update entity s.fillState) with
  | error cause => exact ⟨.data cause, rfl, rfl⟩
  | ok t =>
    obtain ⟨ht, -⟩ := Criteria.describe_fillObject_eq_ok hd
    have hprimary : t.primaryKey = some key.column := by
      rw [ht]
      exact Option.map_eq_some_iff.mpr ⟨key, hkey, rfl⟩
    have hnone : t.field? key.column = none := by
      refine Option.eq_none_iff_forall_ne_some.mpr fun f hf => ?_
      rw [ht] at hf
      obtain ⟨hname, horigin⟩ := origin_of_field? hf
      cases horigin with
      | own field hfield hmem => cases hempty _ hmem (hfield.trans hname)
      | made field hfield hnone hregistered hmem => exact hmade f.value (hname ▸ hmem)
    exact ⟨_, Mapper.updateByKey_of_keyless hprimary hnone, rfl⟩

/-- The conditions of an update that is handed over are on values of the entity, except for those
on empty fields: they are on values that were made for their columns. An update by key without
either kind of value for its key is refused, if filling has not failed before. -/
theorem addressed_by_own_or_made (m : Mapper τ σ) (c : Criteria α) (entity : α)
    (s : Session τ σ) :
    (∀ w : Write α, w.updated? = some entity →
      ∃ handed, (w.perform m c s).2.sent = s.sent ++ handed ∧
        ∀ x ∈ handed, ∃ set addressed, addressed.map Prod.fst = w.conditions c.table ∧
          x = ⟨.execute, updating c.table.table set addressed⟩ ∧
          ∀ cell ∈ addressed, m.fills.Origin .update (c.cells entity) s.fillState cell) ∧
    ∀ key, c.table.primaryKey? = some key →
      (∀ cell ∈ c.cells entity, cell.1.column = key.column → cell.2 = none) →
      (∀ v, (key.column, v) ∉ (m.fills.made .update (c.cells entity) s.fillState).1) →
      ∃ e, ((Write.updateById entity).perform m c s).1 = .error e ∧
        ((Write.updateById entity).perform m c s).2.sent = s.sent ∧
        match c.describe (c.fillObject m.fills .update entity s.fillState) with
        | .error cause => e = .data cause
        | .ok _ => e = .missingIdent (.value key.column) := by
  constructor
  · intro w hw
    cases hp : (w.prepare m c s).1 with
    | error e => exact ⟨[], by rw [(perform_of_error hp).2, List.append_nil], by simp⟩
    | ok st =>
      obtain ⟨set, addressed, -, haddressed, hst, -⟩ :=
        Dialect.eq_updating_of_update (update_of_prepare hw hp)
      refine ⟨[⟨.execute, st⟩], sent_of_ok hp, List.forall_mem_singleton.mpr ?_⟩
      have hcolumns := Dialect.columns_of_mapM_conditionCell haddressed
      exact ⟨set, addressed, hcolumns, congrArg (Sent.mk .execute) hst,
        origin_of_addressed haddressed⟩
  · intro key hkey hempty hmade
    obtain ⟨e, hprepare, he⟩ := prepare_of_keyless hkey hempty hmade
    obtain ⟨hresult, hsent⟩ := perform_of_error hprepare
    exact ⟨e, hresult, hsent, he⟩

open Record (members numbering)

theorem addressed_by_own_or_made_members :
    let row : members.Object := (7, "kept", ("ann", 0, ()), none, ())
    let keyless : members.Object := (0, "kept", ("ann", 0, ()), none, ())
    (∃ set addressed,
      ((Write.update ["uid", "revision"] row).perform memberMapper members.criteria
        memberSession).2.sent = [⟨.execute, updating "member" set addressed⟩] ∧
      ∀ cell ∈ addressed, memberMapper.fills.Origin .update (members.criteria.cells row) 1 cell) ∧
    ((Write.updateById keyless).perform memberMapper members.criteria memberSession).1 =
      .error (.missingIdent (.value "uid")) := by
  intro row keyless
  constructor
  · let w : Write members.Object := .update ["uid", "revision"] row
    obtain ⟨handed, hsent, hhanded⟩ :=
      (addressed_by_own_or_made memberMapper members.criteria row memberSession).1 w rfl
    have hlength : (w.perform memberMapper members.criteria memberSession).2.sent.length = 1 := rfl
    rw [hsent] at hlength
    obtain ⟨x, rfl⟩ := List.length_eq_one_iff.mp hlength
    obtain ⟨set, addressed, -, rfl, horigin⟩ := hhanded x (List.mem_singleton_self x)
    exact ⟨set, addressed, hsent, horigin⟩
  · have hcolumns : ((memberMapper.fills.made .update (members.criteria.cells keyless) 1).1.map
        Prod.fst) = ["revision"] := rfl
    have hmade : ∀ v, ("uid", v) ∉
        (memberMapper.fills.made .update (members.criteria.cells keyless) 1).1 := by
      intro v hv
      have huid : "uid" ∈ ["revision"] := hcolumns ▸ List.mem_map_of_mem (f := Prod.fst) hv
      exact absurd huid (by decide)
    obtain ⟨e, hresult, -, he⟩ :=
      (addressed_by_own_or_made memberMapper members.criteria keyless memberSession).2 _ rfl
        (by decide) hmade
    exact hresult.trans (congrArg Except.error he)

/-- A new key is made for an entity without one, and the update is of the row with that key. Nothing
is said of a missing key where what was made for another column does not convert. -/
theorem updateById_made_key :
    let numbered : Mapper Script Nat :=
      ⟨Script.executor, .ofRegistrations [⟨.update, "uid", numbering⟩], .default⟩
    let mistyped : Mapper Script Nat :=
      ⟨Script.executor, .ofRegistrations [⟨.update, "nick", fun n => (some (.list []), n)⟩],
        .default⟩
    let w : Write members.Object := .updateById (0, "kept", ("ann", 0, ()), none, ())
    (w.perform numbered members.criteria memberSession).2.sent =
      [⟨.execute, ⟨"UPDATE member SET created_by = ? WHERE 1=1 AND uid = ?",
        [.text "ann", .bigint 1]⟩⟩] ∧
    ∃ cause, (w.perform mistyped members.criteria memberSession).1 = .error (.data cause) := by
  intro numbered mistyped w
  exact ⟨rfl, _, rfl⟩

end Write

end SqlMapper
