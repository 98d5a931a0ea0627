import SqlMapper.Proofs.Mapper.Write
import SqlMapper.Proofs.Statement.Safety

/-! Writes are safe. A call hands over one statement at most, and no update or deletion that it
hands over is without a condition. -/

namespace SqlMapper

namespace Mapper

theorem refuses_updateByKey (t : TableDescriptor) : Refuses (updateByKey t) := by
  rw [updateByKey]
  cases t.primaryKey with
  | none => exact .error rfl
  | some key => exact .ite (.error rfl) (Dialect.mysql.refuses_update t [key])

theorem refuses_deletionByIds (t : TableMeta) (ids : List SqlValue) :
    Refuses (deletionByIds t ids) := by
  rw [deletionByIds]
  cases t.primaryKey? with
  | none => exact .error rfl
  | some key => exact Dialect.mysql.refuses_deleteByIds t.table key.column ids

theorem update_of_updateByKey {t : TableDescriptor} {st : Statement} (h : updateByKey t = .ok st) :
    ∃ key, t.primaryKey = some key ∧ Dialect.mysql.update t [key] = .ok st := by
  unfold updateByKey at h
  cases hk : t.primaryKey with
  | none => simp [hk] at h
  | some key =>
    rw [hk] at h
    exact ⟨key, rfl, (eq_ok_of_ite h).2⟩

theorem isUpdate_of_updateByKey {t : TableDescriptor} {st : Statement}
    (h : updateByKey t = .ok st) :
    ∃ key, t.primaryKey = some key ∧ st.IsUpdate t.table [key] := by
  obtain ⟨key, hkey, hst⟩ := update_of_updateByKey h
  exact ⟨key, hkey, Dialect.isUpdate_of_update hst⟩

theorem isDeletionByIds_of_deletionByIds {t : TableMeta} {ids : List SqlValue} {st : Statement}
    (h : deletionByIds t ids = .ok st) :
    ∃ key, t.primaryKey? = some key ∧ st.IsDeletionByIds t.table key.column ids := by
  unfold deletionByIds at h
  cases hk : t.primaryKey? with
  | none => simp [hk] at h
  | some key =>
    rw [hk] at h
    exact ⟨key, rfl, Dialect.isDeletionByIds_of_deleteByIds h⟩

end Mapper

namespace Write

theorem eq_ok_of_prepareEntity {m : Mapper τ σ} {c : Criteria α} {s : Session τ σ} {mode : Mode}
    {assemble : TableDescriptor → Except MapperError Statement} {entity : α} {st : Statement}
    (h : (prepareEntity m c s mode assemble entity).1 = .ok st) :
    assemble (c.table.describe (m.fills.filled mode (c.cells entity) s.fillState).1) = .ok st := by
  obtain ⟨t, ht, hst⟩ := exists_of_bind_eq_ok h
  cases hd : c.describe (c.fillObject m.fills mode entity s.fillState) with
  | error e =>
    rw [hd] at ht
    cases ht
  | ok t' =>
    rw [hd] at ht
    obtain rfl := Except.ok.inj ht
    rw [← (Criteria.describe_fillObject_eq_ok hd).1, hst]

theorem refuses_prepareEntity (m : Mapper τ σ) (c : Criteria α) (s : Session τ σ) (mode : Mode)
    {assemble : TableDescriptor → Except MapperError Statement} (ha : ∀ t, Refuses (assemble t))
    (entity : α) : Refuses (prepareEntity m c s mode assemble entity).1 := by
  refine Refuses.bind ?_ ha
  cases c.describe (c.fillObject m.fills mode entity s.fillState) with
  | error e => exact .error rfl
  | ok t => exact .ok t

theorem refuses_prepare (m : Mapper τ σ) (c : Criteria α) (s : Session τ σ) (w : Write α) :
    Refuses (w.prepare m c s).1 := by
  cases w with
  | insert entity => exact refuses_prepareEntity m c s .insert Dialect.mysql.refuses_insert entity
  | insertBatch entities =>
    rw [prepare]
    split
    · exact .error rfl
    · refine Refuses.bind ?_ Dialect.mysql.refuses_insertBatch
      intro e he
      obtain ⟨cause, rfl⟩ := Mapper.fillAll_error he
      rfl
  | update conditions entity =>
    rw [prepare]
    split
    · exact .error rfl
    · exact refuses_prepareEntity m c s .update
        (fun t => Dialect.mysql.refuses_update t conditions) entity
  | updateById entity => exact refuses_prepareEntity m c s .update Mapper.refuses_updateByKey entity
  | delete object => exact Dialect.mysql.refuses_delete (c.extract object)
  | deleteByIds ids => exact Mapper.refuses_deletionByIds c.table ids

/-- What a call may hand over. Updates and deletions have the conditions that were asked for, or
those that the key stands for, and never none. -/
def Allows (t : TableMeta) (st : Statement) : Write α → Prop
  | .insert _ => st.IsInsertion t.table
  | .insertBatch _ => st.IsInsertion t.table
  | .update conditions _ => st.IsUpdate t.table conditions
  | .updateById _ => ∃ key, t.primaryKey? = some key ∧ st.IsUpdate t.table [key.column]
  | .delete _ => st.IsDeletion t.table
  | .deleteByIds ids =>
    ∃ key, t.primaryKey? = some key ∧ st.IsDeletionByIds t.table key.column ids

theorem allows_prepare {m : Mapper τ σ} {c : Criteria α} {s : Session τ σ} {w : Write α}
    {st : Statement} (h : (w.prepare m c s).1 = .ok st) : w.Allows c.table st := by
  cases w with
  | insert entity =>
    rw [prepare] at h
    have hi := Dialect.isInsertion_of_insert (eq_ok_of_prepareEntity h)
    exact hi
  | insertBatch entities =>
    rw [prepare] at h
    split at h
    · simp at h
    · obtain ⟨ts, hts, hst⟩ := exists_of_bind_eq_ok h
      have htable : ∀ t ∈ ts, t.table = c.table.table := by
        intro t ht
        rw [Mapper.fillAll_eq_ok hts] at ht
        obtain ⟨cells, -, rfl⟩ := List.mem_map.mp ht
        rfl
      have hi := Dialect.isInsertion_of_insertBatch htable hst
      exact hi
  | update conditions entity =>
    rw [prepare] at h
    split at h
    · simp at h
    · have hu := Dialect.isUpdate_of_update (eq_ok_of_prepareEntity h)
      exact hu
  | updateById entity =>
    rw [prepare] at h
    have hu := eq_ok_of_prepareEntity h
    obtain ⟨column, hkey, hupdate⟩ := Mapper.isUpdate_of_updateByKey hu
    obtain ⟨key, hk, rfl⟩ := Option.map_eq_some_iff.mp hkey
    exact ⟨key, hk, hupdate⟩
  | delete object =>
    rw [prepare] at h
    have hd := Dialect.isDeletion_of_delete h
    exact hd
  | deleteByIds ids =>
    rw [prepare] at h
    have hd := Mapper.isDeletionByIds_of_deletionByIds h
    exact hd

/-- A call hands over at most one statement, and one exactly if it ends with the executor's
count or with the executor's failure of that statement. Otherwise it is refused, and the
executor is as it was. -/
theorem perform_safe (m : Mapper τ σ) (c : Criteria α) (w : Write α) (s : Session τ σ) :
    ∃ handed : Option Statement,
      (w.perform m c s).2.sent = s.sent ++ (handed.map (Sent.mk .execute)).toList ∧
      (handed.isSome = true ↔ (∃ n, (w.perform m c s).1 = .ok n) ∨
        ∃ sql reason, (w.perform m c s).1 = .error (.execute sql reason)) ∧
      match handed with
      | none => (w.perform m c s).2.server = s.server ∧
          ∃ e, (w.perform m c s).1 = .error e ∧ e.isRefusal = true
      | some st => (w.perform m c s).2.server = (m.executor.execute st s.server).2 ∧
          (w.perform m c s).1 = (m.executor.execute st s.server).1.mapError (.execute st.sql) ∧
          w.Allows c.table st := by
  obtain ⟨hsent, hserver⟩ := prepare_frame m c s w
  rw [perform_eq]
  cases hp : (w.prepare m c s).1 with
  | error e =>
    have he := refuses_prepare m c s w e hp
    rw [Mapper.run_handOver_error]
    refine ⟨none, by simpa using hsent, ⟨by simp, ?_⟩, hserver, e, rfl, he⟩
    rintro (⟨n, hn⟩ | ⟨sql, reason, hx⟩)
    · simp at hn
    · obtain rfl := Except.error.inj hx
      simp [MapperError.isRefusal] at he
  | ok st =>
    obtain ⟨events, hrun⟩ := m.run_handOver_ok st (w.prepare m c s).2
    rw [hrun, hserver]
    refine ⟨some st, by simp [Session.record, hsent], ⟨fun _ => ?_, fun _ => rfl⟩, rfl, rfl,
      allows_prepare hp⟩
    cases ha : (m.executor.execute st s.server).1 with
    | ok n => exact .inl ⟨n, rfl⟩
    | error reason => exact .inr ⟨st.sql, reason, rfl⟩

end Write

end SqlMapper
