import SqlMapper.Mapper.Write
import SqlMapper.Proofs.Criteria.Filled
import SqlMapper.Proofs.Statement.Assembly

/-! Calls of the operations that write. Each of them prepares one statement, or an error in its
place, before it turns to the executor; then it hands over what it prepared. -/

namespace SqlMapper

inductive Write (α : Type) where
  | insert (entity : α)
  | insertBatch (entities : List α)
  | update (conditions : List String) (entity : α)
  | updateById (entity : α)
  | delete (object : α)
  | deleteByIds (ids : List SqlValue)

namespace Write

def perform (m : Mapper τ σ) (c : Criteria α) (s : Session τ σ) :
    Write α → Except MapperError UInt64 × Session τ σ
  | .insert entity => ((m.insert c entity s).1.1, (m.insert c entity s).2)
  | .insertBatch entities => ((m.insertBatch c entities s).1.1, (m.insertBatch c entities s).2)
  | .update conditions entity =>
    ((m.update c conditions entity s).1.1, (m.update c conditions entity s).2)
  | .updateById entity => ((m.updateById c entity s).1.1, (m.updateById c entity s).2)
  | .delete object => (m.delete c object).run s
  | .deleteByIds ids => (m.deleteByIds c ids).run s

/-- The statement made of an entity after filling, and the session that it is handed over in. -/
def prepareEntity (m : Mapper τ σ) (c : Criteria α) (s : Session τ σ) (mode : Mode)
    (assemble : TableDescriptor → Except MapperError Statement) (entity : α) :
    Except MapperError Statement × Session τ σ :=
  let r := c.fillObject m.fills mode entity s.fillState
  (((c.describe r).mapError .data).bind assemble, Mapper.afterFilling s r)

def prepare (m : Mapper τ σ) (c : Criteria α) (s : Session τ σ) :
    Write α → Except MapperError Statement × Session τ σ
  | .insert entity => prepareEntity m c s .insert Dialect.mysql.insert entity
  | .insertBatch entities =>
    if entities.isEmpty then (.error .emptyData, s)
    else
      let r := m.fillAll c .insert entities s
      (r.1.bind Dialect.mysql.insertBatch, r.2.2)
  | .update conditions entity =>
    if conditions.isEmpty then (.error (.missingCondition (.update c.table.table)), s)
    else prepareEntity m c s .update (fun t => Dialect.mysql.update t conditions) entity
  | .updateById entity => prepareEntity m c s .update Mapper.updateByKey entity
  | .delete object => (Dialect.mysql.delete (c.extract object), s)
  | .deleteByIds ids => (Mapper.deletionByIds c.table ids, s)

theorem perform_eq (m : Mapper τ σ) (c : Criteria α) (s : Session τ σ) (w : Write α) :
    w.perform m c s = (m.handOver (w.prepare m c s).1).run (w.prepare m c s).2 := by
  cases w with
  | insertBatch entities =>
    by_cases he : entities.isEmpty = true
    · simp only [perform, Mapper.insertBatch, prepare, he, if_true]
      rfl
    · simp only [perform, Mapper.insertBatch, prepare, he]
      rfl
  | update conditions entity =>
    by_cases hc : conditions.isEmpty = true
    · simp only [perform, Mapper.update, prepare, hc, if_true]
      rfl
    · simp only [perform, Mapper.update, prepare, hc]
      rfl
  | _ => rfl

end Write

namespace Mapper

theorem run_handOver_error (m : Mapper τ σ) (e : MapperError) (s : Session τ σ) :
    (m.handOver (.error e)).run s = (.error e, s) := rfl

/-- The executor runs the statement, and its answer is the outcome. -/
theorem run_handOver_ok (m : Mapper τ σ) (st : Statement) (s : Session τ σ) :
    ∃ events, (m.handOver (.ok st)).run s =
      ((m.executor.execute st s.server).1.mapError (.execute st.sql),
        s.record .execute st (m.executor.execute st s.server).2 events) := by
  rw [← m.report_fst]
  exact ⟨_, rfl⟩

theorem fillAll_frame (m : Mapper τ σ) (c : Criteria α) (mode : Mode) (entities : List α)
    (s : Session τ σ) :
    (m.fillAll c mode entities s).2.2.sent = s.sent ∧
      (m.fillAll c mode entities s).2.2.server = s.server := by
  induction entities generalizing s with
  | nil => exact ⟨rfl, rfl⟩
  | cons entity rest ih =>
    cases hd : c.describe (c.fillObject m.fills mode entity s.fillState) with
    | error e => simp [fillAll, hd, afterFilling]
    | ok t =>
      have hh := ih (afterFilling s (c.fillObject m.fills mode entity s.fillState))
      simpa [fillAll, hd, afterFilling] using hh

theorem fillAll_error {m : Mapper τ σ} {c : Criteria α} {mode : Mode} {entities : List α}
    {s : Session τ σ} {e : MapperError} (h : (m.fillAll c mode entities s).1 = .error e) :
    ∃ cause, e = .data cause := by
  induction entities generalizing s with
  | nil => simp [fillAll] at h
  | cons entity rest ih =>
    cases hd : c.describe (c.fillObject m.fills mode entity s.fillState) with
    | error cause => exact ⟨cause, by simpa [fillAll, hd] using h.symm⟩
    | ok t =>
      cases hr : (m.fillAll c mode rest
          (afterFilling s (c.fillObject m.fills mode entity s.fillState))).1 with
      | error e' =>
        obtain rfl : e' = e := by simpa [fillAll, hd, hr, Except.map] using h
        exact ih hr
      | ok ts => simp [fillAll, hd, hr, Except.map] at h

theorem fillAll_eq_ok {m : Mapper τ σ} {c : Criteria α} {mode : Mode} {entities : List α}
    {s : Session τ σ} {ts : List TableDescriptor} (h : (m.fillAll c mode entities s).1 = .ok ts) :
    ts = (m.fills.filledRows mode (entities.map c.cells) s.fillState).1.map c.table.describe := by
  induction entities generalizing s ts with
  | nil => exact (Except.ok.inj h).symm
  | cons entity rest ih =>
    cases hd : c.describe (c.fillObject m.fills mode entity s.fillState) with
    | error cause => simp [fillAll, hd] at h
    | ok t =>
      obtain ⟨ht, hstate⟩ := Criteria.describe_fillObject_eq_ok hd
      cases hr : (m.fillAll c mode rest
          (afterFilling s (c.fillObject m.fills mode entity s.fillState))).1 with
      | error e => simp [fillAll, hd, hr, Except.map] at h
      | ok more =>
        have hts : t :: more = ts := by simpa [fillAll, hd, hr, Except.map] using h
        have hmore := ih hr
        rw [afterFilling, hstate] at hmore
        rw [← hts, List.map_cons, FillRegistry.filledRows, List.map_cons, ht, hmore]

end Mapper

namespace Write

/-- Nothing reaches the executor before the statement does. -/
theorem prepare_frame (m : Mapper τ σ) (c : Criteria α) (s : Session τ σ) (w : Write α) :
    (w.prepare m c s).2.sent = s.sent ∧ (w.prepare m c s).2.server = s.server := by
  cases w with
  | insertBatch entities =>
    rw [prepare]
    split
    · exact ⟨rfl, rfl⟩
    · exact m.fillAll_frame c .insert entities s
  | update conditions entity =>
    rw [prepare]
    split <;> exact ⟨rfl, rfl⟩
  | _ => exact ⟨rfl, rfl⟩

end Write

end SqlMapper
