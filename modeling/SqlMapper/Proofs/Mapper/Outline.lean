import SqlMapper.Fill.Rule
import SqlMapper.Proofs.Mapper.Read
import SqlMapper.Proofs.Mapper.Safety
import SqlMapper.Proofs.Select.Meaning
import SqlMapper.Proofs.Statement.Outline

/-! Values never reach the text of a statement. What is handed over for two calls whose values
have the same outlines differs in the bound values only, whoever answers them. -/

namespace SqlMapper

def Cell.outline (cell : Cell) : Cell :=
  (cell.1, cell.2.map SqlValue.outline)

def Sent.outline (x : Sent) : Sent :=
  ⟨x.purpose, x.statement.outline⟩

theorem TableMeta.describe_outline (t : TableMeta) (cells : List Cell) :
    t.describe (cells.map Cell.outline) = (t.describe cells).outline := by
  have hf : (cells.map Cell.outline).filterMap (fun cell =>
      cell.2.map (FieldDescriptor.ofColumn cell.1)) =
        (cells.filterMap fun cell =>
          cell.2.map (FieldDescriptor.ofColumn cell.1)).map FieldDescriptor.outline := by
    rw [List.filterMap_map, List.map_filterMap]
    congr 1
    funext cell
    obtain ⟨column, value⟩ := cell
    cases value <;> rfl
  rw [describe, hf]
  rfl

namespace Write

/-- The call as its statement sees it: an entity by its cells, its own and those filled in. -/
def filled (m : Mapper τ σ) (c : Criteria α) (s : Session τ σ) : Write α → Write (List Cell)
  | .insert entity => .insert (m.fills.filled .insert (c.cells entity) s.fillState).1
  | .insertBatch entities =>
    .insertBatch (m.fills.filledRows .insert (entities.map c.cells) s.fillState).1
  | .update conditions entity =>
    .update conditions (m.fills.filled .update (c.cells entity) s.fillState).1
  | .updateById entity => .updateById (m.fills.filled .update (c.cells entity) s.fillState).1
  | .delete object => .delete (c.cells object)
  | .deleteByIds ids => .deleteByIds ids

def statement (t : TableMeta) : Write (List Cell) → Except MapperError Statement
  | .insert cells => Dialect.mysql.insert (t.describe cells)
  | .insertBatch rows => Dialect.mysql.insertBatch (rows.map t.describe)
  | .update conditions cells => Dialect.mysql.update (t.describe cells) conditions
  | .updateById cells => Mapper.updateByKey (t.describe cells)
  | .delete cells => Dialect.mysql.delete (t.describe cells)
  | .deleteByIds ids => Mapper.deletionByIds t ids

theorem statement_filled {m : Mapper τ σ} {c : Criteria α} {s : Session τ σ} {w : Write α}
    {st : Statement} (h : (w.prepare m c s).1 = .ok st) :
    (w.filled m c s).statement c.table = .ok st := by
  cases w with
  | insert entity =>
    rw [prepare] at h
    have hi := eq_ok_of_prepareEntity h
    exact hi
  | insertBatch entities =>
    rw [prepare] at h
    split at h
    · simp at h
    · obtain ⟨ts, hts, hst⟩ := exists_of_bind_eq_ok h
      rw [filled, statement, ← Mapper.fillAll_eq_ok hts, hst]
  | update conditions entity =>
    rw [prepare] at h
    split at h
    · simp at h
    · have hu := eq_ok_of_prepareEntity h
      exact hu
  | updateById entity =>
    rw [prepare] at h
    have hu := eq_ok_of_prepareEntity h
    exact hu
  | delete object => exact h
  | deleteByIds ids => exact h

def outline : Write (List Cell) → Write (List Cell)
  | .insert cells => .insert (cells.map Cell.outline)
  | .insertBatch rows => .insertBatch (rows.map (List.map Cell.outline))
  | .update conditions cells => .update conditions (cells.map Cell.outline)
  | .updateById cells => .updateById (cells.map Cell.outline)
  | .delete cells => .delete (cells.map Cell.outline)
  | .deleteByIds ids => .deleteByIds (ids.map SqlValue.outline)

theorem updateByKey_outline (t : TableDescriptor) :
    Mapper.updateByKey t.outline = (Mapper.updateByKey t).map Statement.outline := by
  have hk : t.outline.primaryKey = t.primaryKey := rfl
  rw [Mapper.updateByKey, Mapper.updateByKey, hk]
  cases t.primaryKey with
  | none => rfl
  | some key =>
    simp only [TableDescriptor.field?_outline, Option.isNone_map, map_ite_error]
    rw [Dialect.update_outline]

theorem deletionByIds_outline (t : TableMeta) (ids : List SqlValue) :
    Mapper.deletionByIds t (ids.map SqlValue.outline) =
      (Mapper.deletionByIds t ids).map Statement.outline := by
  rw [Mapper.deletionByIds, Mapper.deletionByIds]
  cases t.primaryKey? with
  | none => rfl
  | some key => exact Dialect.mysql.deleteByIds_outline t.table key.column ids

theorem statement_outline (t : TableMeta) (w : Write (List Cell)) :
    w.outline.statement t = (w.statement t).map Statement.outline := by
  cases w with
  | insert cells =>
    rw [outline, statement, t.describe_outline, Dialect.insert_outline, statement]
  | insertBatch rows =>
    have hr : (rows.map (List.map Cell.outline)).map t.describe =
        (rows.map t.describe).map TableDescriptor.outline := by
      simp [t.describe_outline]
    rw [outline, statement, hr, Dialect.insertBatch_outline, statement]
  | update conditions cells =>
    rw [outline, statement, t.describe_outline, Dialect.update_outline, statement]
  | updateById cells =>
    rw [outline, statement, t.describe_outline, updateByKey_outline, statement]
  | delete cells =>
    rw [outline, statement, t.describe_outline, Dialect.delete_outline, statement]
  | deleteByIds ids => exact deletionByIds_outline t ids

end Write

namespace Read

open Operation (scriptOf)

def outline : Read (List Cell) → Read (List Cell)
  | .selectList cells columns => .selectList (cells.map Cell.outline) columns
  | .selectOne cells columns => .selectOne (cells.map Cell.outline) columns
  | .selectPageBy page cells columns => .selectPageBy page.outline (cells.map Cell.outline) columns
  | .getCount cells => .getCount (cells.map Cell.outline)

theorem scriptOf_outline (r : Except MapperError Statement) {script script' : Statement → List Sent}
    (h : ∀ st, (script st).map Sent.outline <+: script' st.outline) :
    (scriptOf r script).map Sent.outline <+: scriptOf (r.map Statement.outline) script' := by
  cases r with
  | error e => exact List.prefix_refl []
  | ok st => exact h st

/-- A page that is out of range ends the script early, so this is a prefix only. -/
theorem pageScript_outline (page : PageRequest) (st : Statement) :
    (pageScript page st).map Sent.outline <+: pageScript page.outline st.outline := by
  rw [pageScript, pageScript, List.map_cons]
  refine List.cons_prefix_cons.mpr ⟨rfl, ?_⟩
  have hs : st.outline.sql = st.sql := rfl
  cases hw : Dialect.mysql.page st.sql page with
  | error e => exact List.nil_prefix
  | ok window =>
    rw [hs, Dialect.page_outline hw]
    simp [scriptOf, Sent.outline, Statement.outline]

theorem script_outline (t : TableMeta) (r : Read (List Cell)) :
    (r.script t).map Sent.outline <+: r.outline.script t := by
  cases r with
  | selectList cells columns =>
    rw [outline, script, script, t.describe_outline, Dialect.select_outline]
    exact scriptOf_outline _ fun st => List.prefix_refl _
  | selectOne cells columns =>
    rw [outline, script, script, t.describe_outline, Dialect.select_outline]
    exact scriptOf_outline _ fun st => List.prefix_refl _
  | selectPageBy page cells columns =>
    rw [outline, script, script, t.describe_outline, Dialect.select_outline]
    exact scriptOf_outline _ (pageScript_outline page)
  | getCount cells =>
    rw [outline, script, script, t.describe_outline, Dialect.count_outline]
    exact scriptOf_outline _ fun st => List.prefix_refl _

end Read

/-- A call of any operation of the mapper that makes its statement from values. -/
inductive Request (α : Type) where
  | write (w : Write α)
  | read (r : Read α)

namespace Request

def perform (m : Mapper τ σ) (decode : Decoder β) (c : Criteria α) (s : Session τ σ) :
    Request α → Session τ σ
  | .write w => (w.perform m c s).2
  | .read r => r.perform m decode c s

/-- What is left of a call when its values, those filled in among them, are taken down to their
outlines and a page to its order. -/
def outline (m : Mapper τ σ) (c : Criteria α) (s : Session τ σ) : Request α → Request (List Cell)
  | .write w => .write (w.filled m c s).outline
  | .read r => .read (r.seen m c).outline

def script (t : TableMeta) : Request (List Cell) → List Sent
  | .write w => Operation.scriptOf (w.statement t) fun st => [⟨.execute, st⟩]
  | .read r => r.script t

theorem perform_outline (m : Mapper τ σ) (decode : Decoder β) (c : Criteria α) (s : Session τ σ)
    (q : Request α) :
    ∃ added, (q.perform m decode c s).sent = s.sent ++ added ∧
      added.map Sent.outline <+: (q.outline m c s).script c.table := by
  cases q with
  | write w =>
    obtain ⟨hsent, -⟩ := w.prepare_frame m c s
    rw [perform, w.perform_eq, outline, script]
    cases hp : (w.prepare m c s).1 with
    | error e => exact ⟨[], by simpa [Mapper.run_handOver_error] using hsent, List.nil_prefix⟩
    | ok st =>
      obtain ⟨events, hrun⟩ := m.run_handOver_ok st (w.prepare m c s).2
      have hst : (w.filled m c s).outline.statement c.table = .ok st.outline := by
        rw [Write.statement_outline, Write.statement_filled hp, map_ok]
      refine ⟨[⟨.execute, st⟩], by rw [hrun, Session.record, hsent], ?_⟩
      rw [hst]
      exact List.prefix_refl _
  | read r =>
    obtain ⟨added, hadded, hscript⟩ := r.perform_follows m decode c s
    exact ⟨added, hadded, (hscript.map Sent.outline).trans (Read.script_outline c.table _)⟩

end Request

theorem getElem?_eq_of_prefix {xs ys zs : List β} (hx : xs <+: zs) (hy : ys <+: zs) {i : Nat}
    {x y : β} (hxi : xs[i]? = some x) (hyi : ys[i]? = some y) : x = y := by
  obtain ⟨hi, rfl⟩ := List.getElem?_eq_some_iff.mp hxi
  obtain ⟨hj, rfl⟩ := List.getElem?_eq_some_iff.mp hyi
  rw [hx.getElem hi, hy.getElem hj]

theorem Statement.eq_of_outline {st st' : Statement} (h : st.outline = st'.outline) :
    st.sql = st'.sql ∧ st.params.length = st'.params.length := by
  have hsql := congrArg Statement.sql h
  have hparams := congrArg (fun st : Statement => st.params.length) h
  exact ⟨hsql, by simpa [Statement.outline] using hparams⟩

/-- Values that are of the same outlines make no difference to any text. After every step of two
builders the texts and the errors are the same, with as many values; so are the texts of two
statements that an assembler makes; and so are those that two calls of an operation hand over,
one for one as far as both get, whatever the mappers, the executors and the sessions. -/
theorem texts_of_outline {τ₁ τ₂ σ₁ σ₂ α β₁ β₂ : Type} :
    (∀ (base : Option String) (steps₁ steps₂ : List Select.Step),
      steps₁.map Select.Step.outline = steps₂.map Select.Step.outline → ∀ n,
        let s₁ := (Select.start base).run (steps₁.take n)
        let s₂ := (Select.start base).run (steps₂.take n)
        s₁.sql = s₂.sql ∧ s₁.values.length = s₂.values.length ∧ s₁.errors = s₂.errors) ∧
    (∀ (d : Dialect) (a₁ a₂ : Assembly), a₁.outline = a₂.outline → ∀ st₁ st₂,
      a₁.statement d = .ok st₁ → a₂.statement d = .ok st₂ →
        st₁.sql = st₂.sql ∧ st₁.params.length = st₂.params.length) ∧
    ∀ (m₁ : Mapper τ₁ σ₁) (m₂ : Mapper τ₂ σ₂) (decode₁ : Decoder β₁) (decode₂ : Decoder β₂)
      (c : Criteria α) (s₁ : Session τ₁ σ₁) (s₂ : Session τ₂ σ₂) (q₁ q₂ : Request α),
      q₁.outline m₁ c s₁ = q₂.outline m₂ c s₂ →
        ∃ added₁ added₂ : List Sent, (q₁.perform m₁ decode₁ c s₁).sent = s₁.sent ++ added₁ ∧
          (q₂.perform m₂ decode₂ c s₂).sent = s₂.sent ++ added₂ ∧
          ∀ (i : Nat) (x₁ x₂ : Sent), added₁[i]? = some x₁ → added₂[i]? = some x₂ →
            x₁.purpose = x₂.purpose ∧ x₁.statement.sql = x₂.statement.sql ∧
              x₁.statement.params.length = x₂.statement.params.length := by
  refine ⟨?_, ?_, ?_⟩
  · intro base steps₁ steps₂ h n
    have ho : ((Select.start base).run (steps₁.take n)).outline =
        ((Select.start base).run (steps₂.take n)).outline := by
      rw [← Select.run_outline, ← Select.run_outline, List.map_take, List.map_take, h]
    have hsql := congrArg Select.sql ho
    have hvalues := congrArg (fun s : Select => s.values.length) ho
    have herrors := congrArg Select.errors ho
    exact ⟨hsql, by simpa [Select.outline] using hvalues, herrors⟩
  · intro d a₁ a₂ h st₁ st₂ h₁ h₂
    exact Statement.eq_of_outline (Assembly.outline_eq_of_statement h h₁ h₂)
  · intro m₁ m₂ decode₁ decode₂ c s₁ s₂ q₁ q₂ h
    obtain ⟨added₁, hsent₁, hprefix₁⟩ := q₁.perform_outline m₁ decode₁ c s₁
    obtain ⟨added₂, hsent₂, hprefix₂⟩ := q₂.perform_outline m₂ decode₂ c s₂
    rw [← h] at hprefix₂
    refine ⟨added₁, added₂, hsent₁, hsent₂, ?_⟩
    intro i x₁ x₂ hx₁ hx₂
    have hx : x₁.outline = x₂.outline := by
      apply getElem?_eq_of_prefix hprefix₁ hprefix₂ (i := i)
      · rw [List.getElem?_map, hx₁, Option.map_some]
      · rw [List.getElem?_map, hx₂, Option.map_some]
    have hpurpose := congrArg Sent.purpose hx
    have hstatement := congrArg Sent.statement hx
    exact ⟨hpurpose, Statement.eq_of_outline hstatement⟩

def accounts : Criteria (Int64 × String) where
  name := "Account"
  table := ⟨"account", [⟨"id", "id", .eq, "id", true⟩, .plain "name" "name"]⟩
  values := fun a => [if a.1 = 0 then none else some (.bigint a.1),
    if a.2.isEmpty then none else some (.text a.2)]
  fill := fun column value a =>
    match column, value with
    | "id", .bigint n => .ok (some (n, a.2))
    | _, _ => .ok none

/-- A mapper that counts keys up, on a database that fails its first statement. -/
def accountMapper : Mapper Script Counters :=
  ⟨Script.executor, FillRegistry.empty.register .insert "id" (.counter 0), .default⟩

def accountSession (next : Int64) : Session Script Counters :=
  ⟨⟨[], [], [0], 0⟩, [next], [], []⟩

def named (name : String) : TableDescriptor :=
  ⟨"account", some "id", [⟨"name", "name", .like, "name", .text name⟩]⟩

theorem texts_of_accounts :
    ((Select.start none).run [.apply (named "ann")]).sql =
      ((Select.start none).run [.apply (named "' or ''='")]).sql ∧
    (∀ st₁ st₂, Dialect.numbered.count (named "ann") = .ok st₁ →
      Dialect.numbered.count (named "' or ''='") = .ok st₂ → st₁.sql = st₂.sql) ∧
    ∃ x₁ x₂ : Sent,
      ((Write.insert (0, "ann")).perform accountMapper accounts (accountSession 5)).2.sent = [x₁] ∧
      ((Write.insert (0, "' or ''='")).perform accountMapper accounts
        (accountSession 9)).2.sent = [x₂] ∧
      x₁.statement.sql = x₂.statement.sql := by
  have hsteps : [Select.Step.apply (named "ann")].map Select.Step.outline =
      [Select.Step.apply (named "' or ''='")].map Select.Step.outline := rfl
  have hcount : (Assembly.count (named "ann")).outline =
      (Assembly.count (named "' or ''='")).outline := rfl
  have hinsert : (Request.write (.insert (0, "ann"))).outline accountMapper accounts
        (accountSession 5) =
      (Request.write (.insert (0, "' or ''='"))).outline accountMapper accounts
        (accountSession 9) := rfl
  obtain ⟨hbuilder, hassembly, hmapper⟩ :=
    @texts_of_outline Script Script Counters Counters (Int64 × String) Unit Unit
  refine ⟨(hbuilder none _ _ hsteps 1).1, ?_, ?_⟩
  · intro st₁ st₂ h₁ h₂
    exact (hassembly .numbered _ _ hcount st₁ st₂ h₁ h₂).1
  · obtain ⟨added₁, added₂, hadded₁, hadded₂, htexts⟩ :=
      hmapper accountMapper accountMapper (fun _ => .ok ()) (fun _ => .ok ()) accounts
        _ _ _ _ hinsert
    have h₁ := congrArg (fun sent : List Sent => sent[0]?) hadded₁.symm
    have h₂ := congrArg (fun sent : List Sent => sent[0]?) hadded₂.symm
    exact ⟨_, _, rfl, rfl, (htexts 0 _ _ h₁ h₂).2.1⟩

end SqlMapper
