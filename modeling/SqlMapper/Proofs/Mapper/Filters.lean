import SqlMapper.Proofs.Mapper.Page
import SqlMapper.Proofs.Record.Filling
import SqlMapper.Proofs.Statement.Filters

/-! Reading the rows of an object in every way there is. All of them ask under the same conditions
or refuse the same value, and the conditions are among those of a deletion. -/

namespace SqlMapper

namespace Operation

/-- The operation ends in an error before it hands anything over. -/
def Refuses (x : Operation τ σ β) (e : MapperError) : Prop :=
  ∀ s, (x.run s).1 = .error e ∧ (x.run s).2.sent = s.sent

theorem Refuses.announce_bind {events : Log} {e : MapperError} {f : β → Operation τ σ γ} :
    Refuses (SqlMapper.announce events >>= fun _ =>
      (liftM (Except.error e : Except MapperError β) : Operation τ σ β) >>= f) e :=
  fun _ => ⟨rfl, rfl⟩

theorem Refuses.bind {x : Operation τ σ β} {e : MapperError} (hx : Refuses x e)
    (f : β → Operation τ σ γ) : Refuses (x >>= f) e := by
  intro s
  obtain ⟨herror, hsent⟩ := hx s
  rw [run_bind]
  cases hr : x.run s with
  | mk r s' =>
    rw [hr] at herror hsent
    obtain rfl : r = .error e := herror
    exact ⟨rfl, hsent⟩

theorem run_announce_bind (events : Log) (b : β) (f : β → Operation τ σ γ) (s : Session τ σ) :
    (SqlMapper.announce events >>= fun _ =>
      (liftM (Except.ok b : Except MapperError β) : Operation τ σ β) >>= f).run s =
      (f b).run { s with log := s.log ++ events } :=
  rfl

theorem Sends.announce_bind {events : Log} {b : β} {f : β → Operation τ σ γ} {script : List Sent}
    (hf : Sends (f b) script) :
    Sends (SqlMapper.announce events >>= fun _ =>
      (liftM (Except.ok b : Except MapperError β) : Operation τ σ β) >>= f) script := by
  intro s
  rw [run_announce_bind]
  exact hf _

end Operation

namespace Mapper

open Operation Dialect

section Reads

variable (m : Mapper τ σ) (decode : Decoder β) (c : Criteria α) (object : α)
  (columns : List String)

/-- Nothing is read, for one and the same complaint. -/
structure ReadsRefuse (e : DataError) : Prop where
  select (d : Dialect) : d.select (c.extract object) columns = .error (.data e)
  count (d : Dialect) : d.count (c.extract object) = .error (.data e)
  builder : (Select.ofDescriptor (c.extract object) none).tryBuild = .error e
  getCount : (m.getCount c object).Refuses (.data e)
  isMatched : (m.isMatched c object).Refuses (.data e)
  selectList : (m.selectList decode c object columns).Refuses (.data e)
  selectOne : (m.selectOne decode c object columns).Refuses (.data e)
  selectPageBy (page : PageRequest) :
    (m.selectPageBy decode page c object columns).Refuses (.data e)

/-- A selection from the table of an object, with a given end. -/
def readOf (selection : String) (tail : Statement) : Statement :=
  ⟨Select.head selection (c.extract object).table ++ tail.sql, tail.params⟩

/-- Whatever is read, the text behind the table and the values are the same. -/
structure ReadsEnd (tail : Statement) : Prop where
  select (d : Dialect) : d.select (c.extract object) columns =
    .ok ⟨d.adapt (readOf c object (columnList columns) tail).sql, tail.params⟩
  count (d : Dialect) : d.count (c.extract object) =
    .ok ⟨d.adapt (readOf c object "count(*)" tail).sql, tail.params⟩
  builder : (Select.ofDescriptor (c.extract object) none).tryBuild =
    .ok (readOf c object "*" tail)
  getCount : (m.getCount c object).Sends [⟨.query, readOf c object "count(*)" tail⟩]
  isMatched : (m.isMatched c object).Sends [⟨.query, readOf c object "count(*)" tail⟩]
  selectList : (m.selectList decode c object columns).Sends
    [⟨.query, readOf c object (columnList columns) tail⟩]
  selectOne : (m.selectOne decode c object columns).Sends
    [⟨.query, readOf c object (columnList columns) tail⟩]
  selectPageBy (page : PageRequest) (s : Session τ σ) :
    let run := (m.selectPageBy decode page c object columns).run s
    ∃ handed, run.2.sent = s.sent ++ handed.map (Sent.mk .query) ∧
      PageRun m decode (m.boundedPage page) (readOf c object (columnList columns) tail) s.server
        run.1 handed run.2.server

variable {c object columns}

theorem readsRefuse_of_tail {e : DataError} (ht : Text.trim (c.extract object).table ≠ "")
    (hc : Select.Selects (columnList columns)) (h : Select.tail (c.extract object) = .error e) :
    m.ReadsRefuse decode c object columns e := by
  have hselect (d : Dialect) : d.select (c.extract object) columns = .error (.data e) := by
    rw [d.select_eq_tail hc ht, h]
    rfl
  have hcount (d : Dialect) : d.count (c.extract object) = .error (.data e) := by
    rw [d.count_eq_tail ht, h]
    rfl
  have hgetCount : (m.getCount c object).Refuses (.data e) := by
    rw [getCount, hcount]
    exact .announce_bind
  refine ⟨hselect, hcount, ?_, hgetCount, hgetCount.bind _, ?_, ?_, fun page => ?_⟩
  · rw [Select.ofDescriptor_eq_tail ht, h]
    rfl
  · rw [selectList, hselect]
    exact .announce_bind
  · rw [selectOne, hselect]
    exact .announce_bind
  · rw [selectPageBy, hselect]
    exact .announce_bind

theorem readsEnd_of_tail {tail : Statement} (ht : Text.trim (c.extract object).table ≠ "")
    (hc : Select.Selects (columnList columns)) (h : Select.tail (c.extract object) = .ok tail) :
    m.ReadsEnd decode c object columns tail := by
  have hselect (d : Dialect) : d.select (c.extract object) columns =
      .ok ⟨d.adapt (readOf c object (columnList columns) tail).sql, tail.params⟩ := by
    rw [d.select_eq_tail hc ht, h]
    rfl
  have hcount (d : Dialect) : d.count (c.extract object) =
      .ok ⟨d.adapt (readOf c object "count(*)" tail).sql, tail.params⟩ := by
    rw [d.count_eq_tail ht, h]
    rfl
  have hgetCount : (m.getCount c object).Sends [⟨.query, readOf c object "count(*)" tail⟩] := by
    rw [getCount, hcount]
    exact .announce_bind (m.sends_readCount _)
  refine ⟨hselect, hcount, ?_, hgetCount, hgetCount.bind fun n => Sends.pure _, ?_, ?_,
    fun page s => ?_⟩
  · rw [Select.ofDescriptor_eq_tail ht, h]
    rfl
  · rw [selectList, hselect]
    exact .announce_bind (m.sends_selectSql decode _)
  · rw [selectOne, hselect]
    exact .announce_bind (m.sends_first decode _)
  · rw [selectPageBy, hselect]
    exact m.pageRun_selectPage decode page _ { s with log := s.log ++ _ }

end Reads

/-- All reads end alike or refuse the same value of the object. Where every field equates its column
with a value they end in the equalities that have one, which are some of those that a deletion
requires of a row. -/
theorem reads_filter_alike (m : Mapper τ σ) (decode : Decoder β) (c : Criteria α) (object : α)
    (columns : List String) (ht : Text.trim (c.extract object).table ≠ "")
    (hc : Select.Selects (columnList columns)) :
    let t := c.extract object
    ((∃ f ∈ t.fields, ∃ reason, m.ReadsRefuse decode c object columns
        (Fragment.malformed f.compareColumn f.keyword reason)) ∨
      ∃ tail, m.ReadsEnd decode c object columns tail) ∧
    (t.fields ≠ [] → (∀ f ∈ t.fields, f.Equates) →
      m.ReadsEnd decode c object columns
        ⟨Select.seed t.table ++ (conjunction " and " t.filled).sql, t.filled.map Prod.snd⟩ ∧
      (∀ d : Dialect, d.delete t = .ok ⟨d.adapt ("DELETE FROM " ++ t.table ++ " WHERE 1=1" ++
        (conjunction " AND " t.equalities).sql), t.equalities.map Prod.snd⟩) ∧
      t.filled.Sublist t.equalities ∧
      ∀ holds : String × SqlValue → Prop,
        (∀ cell ∈ t.equalities, holds cell) → ∀ cell ∈ t.filled, holds cell) := by
  intro t
  refine ⟨?_, fun hne hf => ⟨?_, fun d => ?_, t.filled_sublist, fun holds hall cell hcell => ?_⟩⟩
  · cases htail : Select.tail t with
    | error e =>
      obtain ⟨f, hf, reason, rfl⟩ := Select.exists_of_tail_eq_error htail
      exact .inl ⟨f, hf, reason, m.readsRefuse_of_tail decode ht hc htail⟩
    | ok tail => exact .inr ⟨tail, m.readsEnd_of_tail decode ht hc htail⟩
  · refine m.readsEnd_of_tail decode ht hc ?_
    rw [Select.tail, Select.filter_of_equates hf]
    rfl
  · exact d.delete_of_scalar ht hne fun f h => (hf f h).scalar
  · exact hall cell (t.filled_sublist.subset hcell)

/-- The empty nick is a condition of a deletion only. -/
theorem reads_filter_alike_members :
    let m : Mapper Script Unit := ⟨Script.executor, .empty, .default⟩
    let c := Record.members.criteria
    let object : Record.members.Object := (7, "kept", ("ann", 5, ()), some "", ())
    Select.Selects (columnList ["uid", " concat('(', nick) "]) ∧
    (c.extract object).equalities.map Prod.fst = ["uid", "created_by", "revision", "nick"] ∧
    (m.isMatched c object).Sends [⟨.query,
      ⟨"SELECT count(*) FROM member WHERE 1=1 and uid = ? and created_by = ? and revision = ?",
        [.bigint 7, .text "ann", .bigint 5]⟩⟩] := by
  intro m c object
  have ht : Text.trim (c.extract object).table ≠ "" := by decide
  have hc : Select.Selects (columnList ["uid", " concat('(', nick) "]) := by
    constructor <;> decide
  have hfields : (c.extract object).fields =
      [⟨"uid", "uid", .eq, "uid", .bigint 7⟩,
        ⟨"createdBy", "created_by", .eq, "created_by", .text "ann"⟩,
        ⟨"revision", "revision", .eq, "revision", .bigint 5⟩,
        ⟨"nick", "nick", .eq, "nick", .text ""⟩] := rfl
  have hne : (c.extract object).fields ≠ [] := by
    rw [hfields]
    exact List.cons_ne_nil _ _
  have hf : ∀ f ∈ (c.extract object).fields, f.Equates := by
    simp only [hfields, List.forall_mem_cons]
    exact ⟨⟨rfl, rfl, rfl⟩, ⟨rfl, rfl, rfl⟩, ⟨rfl, rfl, rfl⟩, ⟨rfl, rfl, rfl⟩, by simp⟩
  obtain ⟨-, hequal⟩ := reads_filter_alike m .ok c object _ ht hc
  obtain ⟨hend, -⟩ := hequal hne hf
  have hcount : readOf c object "count(*)"
        ⟨Select.seed "member" ++ (conjunction " and " (c.extract object).filled).sql,
          (c.extract object).filled.map Prod.snd⟩ =
      ⟨"SELECT count(*) FROM member WHERE 1=1 and uid = ? and created_by = ? and revision = ?",
        [.bigint 7, .text "ann", .bigint 5]⟩ := by
    rw [readOf]
    congr 1
    decide
  exact ⟨hc, by decide, hcount ▸ hend.isMatched⟩

end Mapper

end SqlMapper
