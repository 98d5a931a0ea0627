import SqlMapper.Mapper.Read
import SqlMapper.Proofs.Criteria.Filled

/-! Calls of the operations that read, and what they ask of the executor. A read follows a
script of at most two queries, and it stops where the executor fails, a row does not decode or
nothing was counted. -/

namespace SqlMapper

namespace Operation

theorem run_bind (x : Operation τ σ β) (f : β → Operation τ σ γ) (s : Session τ σ) :
    (x >>= f).run s = match x.run s with
      | (.ok b, s') => (f b).run s'
      | (.error e, s') => (.error e, s') := by
  rw [ExceptT.run_bind]
  cases hx : x.run s with
  | mk r s' =>
    cases r with
    | ok b => simp only [bind, StateT.bind, hx]
    | error e =>
      simp only [bind, StateT.bind, hx]
      rfl

/-- The operation hands over these statements, whatever comes of it. -/
def Sends (x : Operation τ σ β) (script : List Sent) : Prop :=
  ∀ s, (x.run s).2.sent = s.sent ++ script

/-- The operation hands over these statements, or the first few of them. -/
def Follows (x : Operation τ σ β) (script : List Sent) : Prop :=
  ∀ s, ∃ added, (x.run s).2.sent = s.sent ++ added ∧ added <+: script

theorem Sends.pure (b : β) : Sends (Pure.pure b : Operation τ σ β) [] :=
  fun s => (List.append_nil s.sent).symm

theorem Sends.lift (r : Except MapperError β) : Sends (liftM r : Operation τ σ β) [] := by
  intro s
  cases r <;> exact (List.append_nil s.sent).symm

theorem Sends.announce (events : Log) : Sends (announce events : Operation τ σ Unit) [] :=
  fun s => (List.append_nil s.sent).symm

theorem Sends.query (m : Mapper τ σ) (st : Statement) : Sends (m.query st) [⟨.query, st⟩] :=
  fun _ => rfl

theorem Sends.follows {x : Operation τ σ β} {script : List Sent} (h : Sends x script) :
    Follows x script :=
  fun s => ⟨script, h s, List.prefix_refl script⟩

theorem Sends.bind {x : Operation τ σ β} {f : β → Operation τ σ γ} {script : List Sent}
    (hx : Sends x script) (hf : ∀ b, Sends (f b) []) : Sends (x >>= f) script := by
  intro s
  have hs := hx s
  rw [run_bind]
  cases hr : x.run s with
  | mk r s' =>
    rw [hr] at hs
    cases r with
    | error e => exact hs
    | ok b => rw [hf b s', List.append_nil, hs]

theorem Sends.follows_bind {x : Operation τ σ β} {f : β → Operation τ σ γ} {first rest : List Sent}
    (hx : Sends x first) (hf : ∀ b, Follows (f b) rest) : Follows (x >>= f) (first ++ rest) := by
  intro s
  have hs := hx s
  rw [run_bind]
  cases hr : x.run s with
  | mk r s' =>
    rw [hr] at hs
    cases r with
    | error e => exact ⟨first, hs, List.prefix_append first rest⟩
    | ok b =>
      obtain ⟨added, hadded, hprefix⟩ := hf b s'
      refine ⟨first ++ added, ?_, (List.prefix_append_right_inj first).mpr hprefix⟩
      rw [hadded, hs, List.append_assoc]

def scriptOf (r : Except MapperError β) (script : β → List Sent) : List Sent :=
  match r with
  | .ok b => script b
  | .error _ => []

theorem Follows.lift_bind {r : Except MapperError β} {f : β → Operation τ σ γ}
    {script : β → List Sent} (hf : ∀ b, Follows (f b) (script b)) :
    Follows ((liftM r : Operation τ σ β) >>= f) (scriptOf r script) := by
  intro s
  rw [run_bind]
  cases r with
  | error e => exact ⟨[], (List.append_nil s.sent).symm, List.nil_prefix⟩
  | ok b => exact hf b s

theorem Follows.announce_bind {events : Log} {r : Except MapperError β} {f : β → Operation τ σ γ}
    {script : β → List Sent} (hf : ∀ b, Follows (f b) (script b)) :
    Follows (SqlMapper.announce events >>= fun _ => (liftM r : Operation τ σ β) >>= f)
      (scriptOf r script) :=
  (Sends.announce events).follows_bind fun _ => Follows.lift_bind hf

end Operation

inductive Read (α : Type) where
  | selectList (object : α) (columns : List String)
  | selectOne (object : α) (columns : List String)
  | selectPageBy (page : PageRequest) (object : α) (columns : List String)
  | getCount (object : α)

namespace Read

def perform (m : Mapper τ σ) (decode : Decoder β) (c : Criteria α) (s : Session τ σ) :
    Read α → Session τ σ
  | .selectList object columns => ((m.selectList decode c object columns).run s).2
  | .selectOne object columns => ((m.selectOne decode c object columns).run s).2
  | .selectPageBy page object columns => ((m.selectPageBy decode page c object columns).run s).2
  | .getCount object => ((m.getCount c object).run s).2

/-- The call as its statements see it: an object by its cells, a page within its bound. -/
def seen (m : Mapper τ σ) (c : Criteria α) : Read α → Read (List Cell)
  | .selectList object columns => .selectList (c.cells object) columns
  | .selectOne object columns => .selectOne (c.cells object) columns
  | .selectPageBy page object columns =>
    .selectPageBy (m.boundedPage page) (c.cells object) columns
  | .getCount object => .getCount (c.cells object)

def pageScript (page : PageRequest) (st : Statement) : List Sent :=
  ⟨.query, ⟨Dialect.mysql.wrapCount st.sql, st.params⟩⟩ ::
    Operation.scriptOf (Dialect.mysql.page st.sql page) fun window =>
      [⟨.query, ⟨window.sql, st.params ++ window.params⟩⟩]

def script (t : TableMeta) : Read (List Cell) → List Sent
  | .selectList cells columns =>
    Operation.scriptOf (Dialect.mysql.select (t.describe cells) columns) fun st => [⟨.query, st⟩]
  | .selectOne cells columns =>
    Operation.scriptOf (Dialect.mysql.select (t.describe cells) columns) fun st => [⟨.query, st⟩]
  | .selectPageBy page cells columns =>
    Operation.scriptOf (Dialect.mysql.select (t.describe cells) columns) (pageScript page)
  | .getCount cells =>
    Operation.scriptOf (Dialect.mysql.count (t.describe cells)) fun st => [⟨.query, st⟩]

end Read

namespace Mapper

open Operation

theorem sends_selectSql (m : Mapper τ σ) (decode : Decoder β) (st : Statement) :
    Sends (m.selectSql decode st) [⟨.query, st⟩] :=
  (Sends.query m st).bind fun rows => Sends.lift (decodeRows decode rows)

theorem sends_readCount (m : Mapper τ σ) (st : Statement) :
    Sends (m.readCount st) [⟨.query, st⟩] := by
  refine (Sends.query m st).bind fun rows => ?_
  cases rows.head? with
  | none => exact Sends.pure 0
  | some row => exact Sends.lift _

theorem follows_selectList (m : Mapper τ σ) (decode : Decoder β) (c : Criteria α) (object : α)
    (columns : List String) :
    Follows (m.selectList decode c object columns)
      (scriptOf (Dialect.mysql.select (c.extract object) columns) fun st => [⟨.query, st⟩]) :=
  Follows.announce_bind fun st => (m.sends_selectSql decode st).follows

theorem sends_first (m : Mapper τ σ) (decode : Decoder β) (st : Statement) :
    Sends (do
      match (← m.query st).head? with
      | none => return none
      | some row => return some (← decodeRow decode row) : Operation τ σ (Option β))
      [⟨.query, st⟩] := by
  refine (Sends.query m st).bind fun rows => ?_
  cases rows.head? with
  | none => exact Sends.pure none
  | some row => exact (Sends.lift (decodeRow decode row)).bind fun b => Sends.pure (some b)

theorem follows_selectOne (m : Mapper τ σ) (decode : Decoder β) (c : Criteria α) (object : α)
    (columns : List String) :
    Follows (m.selectOne decode c object columns)
      (scriptOf (Dialect.mysql.select (c.extract object) columns) fun st => [⟨.query, st⟩]) :=
  Follows.announce_bind fun st => (m.sends_first decode st).follows

theorem follows_getCount (m : Mapper τ σ) (c : Criteria α) (object : α) :
    Follows (m.getCount c object)
      (scriptOf (Dialect.mysql.count (c.extract object)) fun st => [⟨.query, st⟩]) :=
  Follows.announce_bind fun st => (m.sends_readCount st).follows

theorem follows_selectPage (m : Mapper τ σ) (decode : Decoder β) (page : PageRequest)
    (st : Statement) :
    Follows (m.selectPage decode page st) (Read.pageScript (m.boundedPage page) st) := by
  refine (m.sends_readCount _).follows_bind fun total => ?_
  by_cases ht : total = 0
  · rw [if_pos ht]
    exact fun s => ⟨[], (List.append_nil s.sent).symm, List.nil_prefix⟩
  · rw [if_neg ht]
    exact Follows.lift_bind fun window =>
      ((m.sends_selectSql decode _).bind fun records => Sends.pure _).follows

theorem follows_selectPageBy (m : Mapper τ σ) (decode : Decoder β) (page : PageRequest)
    (c : Criteria α) (object : α) (columns : List String) :
    Follows (m.selectPageBy decode page c object columns)
      (scriptOf (Dialect.mysql.select (c.extract object) columns)
        (Read.pageScript (m.boundedPage page))) :=
  Follows.announce_bind fun st => m.follows_selectPage decode page st

end Mapper

namespace Read

/-- A read hands over what its script says, as far as it gets. -/
theorem perform_follows (m : Mapper τ σ) (decode : Decoder β) (c : Criteria α)
    (s : Session τ σ) (r : Read α) :
    ∃ added, (r.perform m decode c s).sent = s.sent ++ added ∧
      added <+: (r.seen m c).script c.table := by
  cases r with
  | selectList object columns =>
    rw [perform, seen, script, ← Criteria.extract_eq]
    exact m.follows_selectList decode c object columns s
  | selectOne object columns =>
    rw [perform, seen, script, ← Criteria.extract_eq]
    exact m.follows_selectOne decode c object columns s
  | selectPageBy page object columns =>
    rw [perform, seen, script, ← Criteria.extract_eq]
    exact m.follows_selectPageBy decode page c object columns s
  | getCount object =>
    rw [perform, seen, script, ← Criteria.extract_eq]
    exact m.follows_getCount c object s

end Read

end SqlMapper
