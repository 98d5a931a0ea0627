import SqlMapper.Proofs.Mapper.Write
import SqlMapper.Proofs.Statement.Scalars
import SqlMapper.Record.Basic

/-! The values that calls bind. A call that is to store a value that is not a single one ends with a
complaint about it and hands nothing over, except for a deletion by keys: it hands over any keys. -/

namespace SqlMapper

namespace Mapper

/-- The update of the row that the key of a descriptor names. -/
def updateOfKey (t : TableDescriptor) : Except MapperError Assembly :=
  match t.primaryKey with
  | none => .error (.missingIdent (.key t.table))
  | some key =>
    if (t.field? key).isNone then .error (.missingIdent (.value key)) else .ok (.update t [key])

theorem updateByKey_eq (t : TableDescriptor) :
    updateByKey t = (updateOfKey t).bind fun a => a.statement .mysql := by
  rw [updateByKey, updateOfKey]
  cases t.primaryKey with
  | none => rfl
  | some key =>
    dsimp only
    split
    · rfl
    · rw [bind_ok, Assembly.statement]

theorem checksValues_of_updateOfKey {t : TableDescriptor} {a : Assembly}
    (h : updateOfKey t = .ok a) : a.checksValues = true := by
  rw [updateOfKey] at h
  cases hk : t.primaryKey with
  | none => simp [hk] at h
  | some key =>
    rw [hk] at h
    obtain ⟨-, h⟩ := eq_ok_of_ite h
    obtain rfl := Except.ok.inj h
    rfl

end Mapper

namespace Write

/-- What is known of an entity after filling. -/
def described (m : Mapper τ σ) (c : Criteria α) (s : Session τ σ) (mode : Mode) (entity : α) :
    Except MapperError TableDescriptor :=
  (c.describe (c.fillObject m.fills mode entity s.fillState)).mapError .data

/-- The statement that a call asks for. -/
def assembly (m : Mapper τ σ) (c : Criteria α) (s : Session τ σ) :
    Write α → Except MapperError Assembly
  | .insert entity => (described m c s .insert entity).map .insert
  | .insertBatch entities =>
    if entities.isEmpty then .error .emptyData
    else (m.fillAll c .insert entities s).1.map .insertBatch
  | .update conditions entity =>
    if conditions.isEmpty then .error (.missingCondition (.update c.table.table))
    else (described m c s .update entity).map fun t => .update t conditions
  | .updateById entity => (described m c s .update entity).bind Mapper.updateOfKey
  | .delete object => .ok (.delete (c.extract object))
  | .deleteByIds ids =>
    match c.table.primaryKey? with
    | none => .error (.missingIdent (.key c.table.table))
    | some key => .ok (.deleteByIds c.table.table key.column ids)

/-- The calls that look at their values. -/
def checksValues : Write α → Bool
  | .deleteByIds _ => false
  | _ => true

variable {m : Mapper τ σ} {c : Criteria α} {s : Session τ σ} {w : Write α}

theorem prepare_eq (m : Mapper τ σ) (c : Criteria α) (s : Session τ σ) (w : Write α) :
    (w.prepare m c s).1 = (w.assembly m c s).bind fun a => a.statement .mysql := by
  cases w with
  | insert entity =>
    rw [assembly, map_bind]
    rfl
  | insertBatch entities =>
    rw [prepare, assembly]
    split
    · rfl
    · rw [map_bind]
      rfl
  | update conditions entity =>
    rw [prepare, assembly]
    split
    · rfl
    · rw [map_bind]
      rfl
  | updateById entity =>
    rw [assembly, prepare, prepareEntity, described]
    cases c.describe (c.fillObject m.fills .update entity s.fillState) with
    | error e => rfl
    | ok t => exact Mapper.updateByKey_eq t
  | delete object => rfl
  | deleteByIds ids =>
    rw [prepare, Mapper.deletionByIds, assembly]
    cases c.table.primaryKey? <;> rfl

theorem checksValues_of_assembly {a : Assembly} (hw : w.checksValues = true)
    (h : w.assembly m c s = .ok a) : a.checksValues = true := by
  cases w with
  | insert entity =>
    obtain ⟨t, -, rfl⟩ := exists_of_map_eq_ok h
    rfl
  | insertBatch entities =>
    obtain ⟨ts, -, rfl⟩ := exists_of_map_eq_ok (eq_ok_of_ite h).2
    rfl
  | update conditions entity =>
    obtain ⟨t, -, rfl⟩ := exists_of_map_eq_ok (eq_ok_of_ite h).2
    rfl
  | updateById entity =>
    obtain ⟨t, -, ht⟩ := exists_of_bind_eq_ok h
    exact Mapper.checksValues_of_updateOfKey ht
  | delete object =>
    obtain rfl := Except.ok.inj h
    rfl
  | deleteByIds ids => simp [checksValues] at hw

/-- A call that stops before its statement hands nothing over. -/
theorem perform_of_error {e : MapperError} (h : (w.prepare m c s).1 = .error e) :
    (w.perform m c s).1 = .error e ∧ (w.perform m c s).2.sent = s.sent := by
  rw [perform_eq, h, Mapper.run_handOver_error]
  exact ⟨rfl, (prepare_frame m c s w).1⟩

theorem sent_of_ok {st : Statement} (h : (w.prepare m c s).1 = .ok st) :
    (w.perform m c s).2.sent = s.sent ++ [⟨.execute, st⟩] := by
  obtain ⟨events, hrun⟩ := m.run_handOver_ok st (w.prepare m c s).2
  rw [perform_eq, h, hrun]
  simp [Session.record, (prepare_frame m c s w).1]

/-- Whatever a write binds is a single value, unless it is a deletion by keys. Where one of the cells
that it is to bind is none, the write complains about such a cell, and nothing is handed over. A
deletion by keys binds the keys that it is given, whatever they are. -/
theorem scalars_stored (m : Mapper τ σ) (c : Criteria α) (s : Session τ σ) :
    (∀ (d : Dialect) (a : Assembly), a.checksValues = true →
      (∀ st, a.statement d = .ok st → ∀ v ∈ st.params, v.isScalar = true) ∧
      ∀ cells, a.Storing cells →
        ∃ sql, Stores cells (a.statement d) (d.finish sql (cells.map Prod.snd))) ∧
    (∀ w : Write α, w.checksValues = true →
      (∃ handed, (w.perform m c s).2.sent = s.sent ++ handed ∧
        ∀ x ∈ handed, ∀ v ∈ x.statement.params, v.isScalar = true) ∧
      ∀ a cells, w.assembly m c s = .ok a → a.Storing cells →
        (∃ cell ∈ cells, cell.2.isScalar = false) →
        ∃ cell ∈ cells, cell.2.isScalar = false ∧
          (w.perform m c s).1 = .error (notStorable cell) ∧
          (w.perform m c s).2.sent = s.sent) ∧
    (∀ (d : Dialect) (table primaryKey : String) (ids : List SqlValue), Text.trim table ≠ "" →
      ids ≠ [] → ∃ sql, d.deleteByIds table primaryKey ids = .ok (d.finish sql ids)) ∧
    ∀ ids key, c.table.primaryKey? = some key → Text.trim c.table.table ≠ "" → ids ≠ [] →
      ∃ sql, ((Write.deleteByIds ids : Write α).perform m c s).2.sent =
        s.sent ++ [⟨.execute, ⟨sql, ids⟩⟩] := by
  refine ⟨fun d a ha => ⟨fun st => Assembly.scalar_of_statement ha, fun cells hc => hc.stores d⟩,
    fun w hw => ⟨?_, ?_⟩, ?_, ?_⟩
  · cases hp : (w.prepare m c s).1 with
    | error e => exact ⟨[], by rw [(perform_of_error hp).2, List.append_nil], by simp⟩
    | ok st =>
      obtain ⟨a, ha, hst⟩ := exists_of_bind_eq_ok ((prepare_eq m c s w).symm.trans hp)
      have hscalar := Assembly.scalar_of_statement (checksValues_of_assembly hw ha) hst
      exact ⟨[⟨.execute, st⟩], sent_of_ok hp, List.forall_mem_singleton.mpr hscalar⟩
  · intro a cells ha hcells hbad
    obtain ⟨sql, hstores⟩ := hcells.stores .mysql
    obtain ⟨cell, hcell, hscalar, he⟩ := hstores.error hbad
    have hp : (w.prepare m c s).1 = .error (notStorable cell) := by
      rw [prepare_eq, ha, bind_ok, he]
    exact ⟨cell, hcell, hscalar, perform_of_error hp⟩
  · exact fun d table primaryKey ids ht hids => d.deleteByIds_binds ht primaryKey hids
  · intro ids key hkey ht hids
    obtain ⟨sql, hst⟩ := Dialect.mysql.deleteByIds_binds ht key.column hids
    have hp : ((Write.deleteByIds ids : Write α).prepare m c s).1 =
        .ok (Dialect.mysql.finish sql ids) := by
      rw [← hst, prepare, Mapper.deletionByIds, hkey]
    exact ⟨sql, sent_of_ok hp⟩

def posts : Record where
  name := "Post"
  table := "t_post"
  fields :=
    .value ⟨"id", "id", "", "", true, true, false⟩ (.base .int64)
    (.value ⟨"tags", "tags", "", "", false, true, false⟩ (.list (.base .text)) .nil)

def plainMapper : Mapper Script Unit := ⟨Script.executor, .empty, .default⟩

def plainSession : Session Script Unit := ⟨⟨[], [], [], 0⟩, (), [], []⟩

theorem scalars_stored_posts :
    let post : posts.Object := (7, ["news"], ())
    let keys : List SqlValue := [.list [.bigint 7, .bigint 8]]
    (∃ cell : String × SqlValue, cell.2.isScalar = false ∧
      ((Write.insert post).perform plainMapper posts.criteria plainSession).1 =
        .error (notStorable cell)) ∧
    ((Write.insert post).perform plainMapper posts.criteria plainSession).2.sent = [] ∧
    ∃ sql, ((Write.deleteByIds keys).perform plainMapper posts.criteria plainSession).2.sent =
      [⟨.execute, ⟨sql, keys⟩⟩] := by
  intro post keys
  obtain ⟨-, hwrites, -, hkeys⟩ := scalars_stored plainMapper posts.criteria plainSession
  have hstoring : (Assembly.insert (posts.criteria.extract post)).Storing
      [("id", .bigint 7), ("tags", .list [.text "news"])] := .insert (by decide) nofun
  obtain ⟨cell, -, hscalar, herror, hsent⟩ :=
    (hwrites (.insert post) rfl).2 _ _ rfl hstoring
      ⟨("tags", .list [.text "news"]), List.mem_cons_of_mem _ List.mem_cons_self, rfl⟩
  exact ⟨⟨cell, hscalar, herror⟩, hsent, hkeys keys _ rfl (by decide) nofun⟩

/-- A list among the keys. -/
theorem deleteByIds_list :
    Dialect.mysql.deleteByIds "t_post" "id" [.list [.bigint 7, .bigint 8]] =
      .ok ⟨"DELETE FROM t_post WHERE id in (?)", [.list [.bigint 7, .bigint 8]]⟩ := by
  rfl

end Write

end SqlMapper
