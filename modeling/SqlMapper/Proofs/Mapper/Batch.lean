import SqlMapper.Proofs.Mapper.Entities
import SqlMapper.Proofs.Statement.Batch

/-! Batches of entities and single entities. A batch of one is inserted as the entity is alone. -/

namespace SqlMapper.Mapper

theorem fillAll_singleton (m : Mapper τ σ) (c : Criteria α) (mode : Mode) (entity : α)
    (s : Session τ σ) :
    let r := c.fillObject m.fills mode entity s.fillState
    m.fillAll c mode [entity] s =
      (((c.describe r).mapError .data).map fun t => [t], [r.object], afterFilling s r) := by
  intro r
  rw [fillAll]
  cases c.describe r <;> rfl

/-- The entity is filled, handed over and left as by a single insertion, and so is the session. -/
theorem insertBatch_singleton (m : Mapper τ σ) (c : Criteria α) (entity : α) (s : Session τ σ) :
    m.insertBatch c [entity] s =
      (((m.insert c entity s).1.1, [(m.insert c entity s).1.2]), (m.insert c entity s).2) := by
  let r := c.fillObject m.fills .insert entity s.fillState
  have hstatement : (((c.describe r).mapError .data).map fun t => [t]).bind
      Dialect.mysql.insertBatch = ((c.describe r).mapError .data).bind Dialect.mysql.insert := by
    rw [map_bind]
    exact congrArg _ (funext Dialect.mysql.insertBatch_singleton)
  have hfilled := m.fillAll_singleton c .insert entity s
  simp only [insertBatch, List.isEmpty_cons, Bool.false_eq_true, if_false, hfilled]
  rw [hstatement]
  rfl

/-- A batch agrees with single insertions. It is made if and only if there are rows, each of them
could be inserted, and all have the same columns; it then binds what the insertions of its rows bind
in turn. For one row the outcome is the same, and so is all that comes of inserting an entity. -/
theorem insertBatch_agrees (d : Dialect) (m : Mapper τ σ) (c : Criteria α) (entity : α)
    (s : Session τ σ) :
    (∀ (table : String) (ts : List TableDescriptor), (∀ t ∈ ts, t.table = table) →
      ((∃ st, d.insertBatch ts = .ok st) ↔
        ts ≠ [] ∧ (∀ t ∈ ts, ∃ st, d.insert t = .ok st) ∧
          ∀ t ∈ ts, ∀ u ∈ ts, t.columns = u.columns) ∧
      ∀ st, d.insertBatch ts = .ok st → ∃ columns singles,
        (∀ t ∈ ts, t.columns = columns) ∧ ts.mapM d.insert = .ok singles ∧
        (∀ one ∈ singles, one.sql = d.adapt (Dialect.insertionText table columns 1)) ∧
        st.sql = d.adapt (Dialect.insertionText table columns ts.length) ∧
        st.params = singles.flatMap fun one => one.params) ∧
    (∀ t, d.insertBatch [t] = d.insert t) ∧
    m.insertBatch c [entity] s =
      (((m.insert c entity s).1.1, [(m.insert c entity s).1.2]), (m.insert c entity s).2) :=
  ⟨fun _ _ htable => ⟨Dialect.exists_insertBatch_iff d htable,
    fun _ hst => Dialect.singles_of_insertBatch htable hst⟩,
    d.insertBatch_singleton, m.insertBatch_singleton c entity s⟩

def visitRow (id : Int64) (page : String) : TableDescriptor :=
  ⟨"visit", some "id",
    [⟨"id", "id", .eq, "id", .bigint id⟩, ⟨"page", "page", .eq, "page", .text page⟩]⟩

open Record (members)
open Write (memberMapper memberSession)

theorem insertBatch_agrees_visits :
    let rows := [visitRow 1 "/a?b", visitRow 2 "/"]
    let row : members.Object := (7, "kept", ("ann", 0, ()), none, ())
    (∀ t ∈ rows, t.table = "visit") ∧
    (∃ columns singles, (∀ t ∈ rows, t.columns = columns) ∧
      rows.mapM Dialect.mysql.insert = .ok singles ∧
      "INSERT INTO visit (id, page) VALUES (?, ?), (?, ?)" =
        Dialect.insertionText "visit" columns 2 ∧
      [.bigint 1, .text "/a?b", .bigint 2, .text "/"] = singles.flatMap fun one => one.params) ∧
    (memberMapper.insertBatch members.criteria [row] memberSession).2.sent =
      (memberMapper.insert members.criteria row memberSession).2.sent := by
  intro rows row
  have htable : ∀ t ∈ rows, t.table = "visit" := by simp [rows, visitRow]
  have hst : Dialect.mysql.insertBatch rows =
      .ok ⟨"INSERT INTO visit (id, page) VALUES (?, ?), (?, ?)",
        [.bigint 1, .text "/a?b", .bigint 2, .text "/"]⟩ := rfl
  obtain ⟨hbatch, -, hone⟩ :=
    insertBatch_agrees Dialect.mysql memberMapper members.criteria row memberSession
  obtain ⟨columns, singles, hcolumns, hsingles, -, hsql, hparams⟩ :=
    (hbatch "visit" rows htable).2 _ hst
  exact ⟨htable, ⟨columns, singles, hcolumns, hsingles, hsql, hparams⟩, by rw [hone]⟩

end SqlMapper.Mapper
