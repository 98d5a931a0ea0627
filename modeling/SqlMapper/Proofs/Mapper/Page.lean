import SqlMapper.Proofs.Mapper.Read
import SqlMapper.Proofs.Statement.Page

/-! One page of a query, from the request to the page. The rows are counted, and the page is asked
for only where there are rows and the request can be bound. -/

namespace SqlMapper

namespace Mapper

/-- The number that the rows of a count give. -/
def counted (rows : List Row) : Except DataError UInt64 :=
  match rows.head? with
  | none => .ok 0
  | some row => row.toScalar (.base .nat64)

def countOf (st : Statement) : Statement :=
  ⟨"SELECT count(*) FROM (" ++ Text.trim st.sql ++ ") t", st.params⟩

def windowOf (p : PageRequest) (st : Statement) : Statement :=
  ⟨(p.window st.sql).sql, st.params ++ (p.window st.sql).params⟩

section Runs

variable (m : Mapper τ σ) (st : Statement) (s : Session τ σ)

theorem run_query :
    ∃ events, (m.query st).run s =
      ((m.executor.query st s.server).1.mapError (.execute st.sql),
        s.record .query st (m.executor.query st s.server).2 events) := by
  rw [← m.report_fst]
  exact ⟨_, rfl⟩

theorem run_readCount :
    ∃ events, (m.readCount st).run s =
      (((m.executor.query st s.server).1.mapError (.execute st.sql)).bind fun rows =>
          (counted rows).mapError .data,
        s.record .query st (m.executor.query st s.server).2 events) := by
  obtain ⟨events, hrun⟩ := m.run_query st s
  refine ⟨events, ?_⟩
  rw [readCount, Operation.run_bind, hrun]
  cases (m.executor.query st s.server).1 with
  | error reason => rfl
  | ok rows => cases rows <;> rfl

/-- A query fails, or one of its rows is not decoded, or all of them are. -/
theorem run_selectSql_cases (decode : Decoder β) :
    ∃ result events server',
      (m.selectSql decode st).run s = (result, s.record .query st server' events) ∧
      ((∃ reason, m.executor.query st s.server = (.error reason, server') ∧
          result = .error (.execute st.sql reason)) ∨
        ∃ rows, m.executor.query st s.server = (.ok rows, server') ∧
          ((∃ row ∈ rows, ∃ e, decode row = .error e ∧ result = .error (.data e)) ∨
            ∃ records, List.Forall₂ (fun row record => decode row = .ok record) rows records ∧
              result = .ok records)) := by
  obtain ⟨events, hrun⟩ := m.run_query st s
  rw [selectSql, Operation.run_bind, hrun]
  cases hq : m.executor.query st s.server with
  | mk answer server' =>
    cases answer with
    | error reason => exact ⟨_, events, server', rfl, .inl ⟨reason, rfl, rfl⟩⟩
    | ok rows =>
      refine ⟨decodeRows decode rows, events, server', rfl, .inr ⟨rows, rfl, ?_⟩⟩
      cases hd : decodeRows decode rows with
      | error e =>
        obtain ⟨row, hrow, hunread⟩ := exists_of_mapM_eq_error hd
        obtain ⟨cause, hcause, rfl⟩ := exists_of_mapError_eq_error hunread
        exact .inl ⟨row, hrow, cause, hcause, rfl⟩
      | ok records =>
        exact .inr ⟨records, (forall₂_of_mapM_eq_ok hd).imp fun row record =>
          eq_ok_of_mapError_eq_ok, rfl⟩

end Runs

/-- The ways a request for a page can go on a server: the result, the queries that were run for
it and the server after them. -/
inductive PageRun (m : Mapper τ σ) (decode : Decoder β) (p : PageRequest) (st : Statement)
    (server : τ) : Except MapperError (Page β) → List Statement → τ → Prop
  | countFailed {reason : String} {server' : τ}
      (count : m.executor.query (countOf st) server = (.error reason, server')) :
      PageRun m decode p st server (.error (.execute (countOf st).sql reason)) [countOf st] server'
  | countUnread {rows : List Row} {server' : τ} {e : DataError}
      (count : m.executor.query (countOf st) server = (.ok rows, server'))
      (unread : counted rows = .error e) :
      PageRun m decode p st server (.error (.data e)) [countOf st] server'
  | empty {rows : List Row} {server' : τ}
      (count : m.executor.query (countOf st) server = (.ok rows, server'))
      (total : counted rows = .ok 0) :
      PageRun m decode p st server (.ok ⟨0, p.size, p.number, []⟩) [countOf st] server'
  | refused {rows : List Row} {server' : τ} {n : UInt64}
      (count : m.executor.query (countOf st) server = (.ok rows, server'))
      (total : counted rows = .ok n) (some : n ≠ 0) (unbindable : ¬p.IsBindable) :
      PageRun m decode p st server (.error (.invalidField p.refusal)) [countOf st] server'
  | windowFailed {rows : List Row} {server' server'' : τ} {n : UInt64} {reason : String}
      (count : m.executor.query (countOf st) server = (.ok rows, server'))
      (total : counted rows = .ok n) (some : n ≠ 0) (bindable : p.IsBindable)
      (window : m.executor.query (windowOf p st) server' = (.error reason, server'')) :
      PageRun m decode p st server (.error (.execute (windowOf p st).sql reason))
        [countOf st, windowOf p st] server''
  | windowUnread {rows found : List Row} {server' server'' : τ} {n : UInt64} {row : Row}
      {e : DataError}
      (count : m.executor.query (countOf st) server = (.ok rows, server'))
      (total : counted rows = .ok n) (some : n ≠ 0) (bindable : p.IsBindable)
      (window : m.executor.query (windowOf p st) server' = (.ok found, server''))
      (mem : row ∈ found) (unread : decode row = .error e) :
      PageRun m decode p st server (.error (.data e)) [countOf st, windowOf p st] server''
  | page {rows found : List Row} {server' server'' : τ} {n : UInt64} {records : List β}
      (count : m.executor.query (countOf st) server = (.ok rows, server'))
      (total : counted rows = .ok n) (some : n ≠ 0) (bindable : p.IsBindable)
      (window : m.executor.query (windowOf p st) server' = (.ok found, server''))
      (decoded : List.Forall₂ (fun row record => decode row = .ok record) found records) :
      PageRun m decode p st server (.ok ⟨n, p.size, p.number, records⟩)
        [countOf st, windowOf p st] server''

variable {m : Mapper τ σ}

theorem boundedPage_current (m : Mapper τ σ) (page : PageRequest) :
    (m.boundedPage page).current = page.current := by
  rw [boundedPage]
  split
  · rfl
  · split <;> rfl

theorem boundedPage_orders (m : Mapper τ σ) (page : PageRequest) :
    (m.boundedPage page).orders = page.orders := by
  rw [boundedPage]
  split
  · rfl
  · split <;> rfl

/-- The size that was asked for, within the bound if there is one. -/
theorem boundedPage_size (m : Mapper τ σ) (page : PageRequest) :
    match m.config.maxPageSize with
    | none => (m.boundedPage page).size = page.size
    | some greatest =>
      (m.boundedPage page).size =
          (if page.size = 0 ∨ greatest < page.size then greatest else page.size) ∧
        1 ≤ (m.boundedPage page).size ∧ (m.boundedPage page).size ≤ greatest := by
  have hne := m.config.maxPageSize_ne_zero
  unfold boundedPage
  cases hm : m.config.maxPageSize with
  | none => rfl
  | some greatest =>
    have hpos : 1 ≤ greatest.toNat := by
      rw [hm] at hne
      have h0 : greatest.toNat ≠ 0 := fun h => hne (congrArg some (UInt64.toNat_inj.mp h))
      omega
    dsimp only
    split
    · exact ⟨rfl, UInt64.le_iff_toNat_le.mpr hpos, UInt64.le_refl greatest⟩
    · rename_i hwithin
      obtain ⟨hzero, hle⟩ := not_or.mp hwithin
      have hsize : page.size.toNat ≠ 0 := fun h => hzero (UInt64.toNat_inj.mp h)
      have hone : 1 ≤ page.size.toNat := by omega
      exact ⟨rfl, UInt64.le_iff_toNat_le.mpr hone, UInt64.not_lt.mp hle⟩

/-- What is left of a request once its rows are counted. -/
theorem pageRun_window {decode : Decoder β} {p : PageRequest} {st : Statement} {server : τ}
    {s : Session τ σ} {rows : List Row} {n : UInt64}
    (count : m.executor.query (countOf st) server = (.ok rows, s.server))
    (total : counted rows = .ok n) (hn : n ≠ 0) :
    let window : Operation τ σ (Page β) := do
      let window ← Dialect.mysql.page st.sql p
      let records ← m.selectSql decode ⟨window.sql, st.params ++ window.params⟩
      return ⟨n, p.size, p.number, records⟩
    ∃ handed, (window.run s).2.sent = s.sent ++ handed.map (Sent.mk .query) ∧
      PageRun m decode p st server (window.run s).1 (countOf st :: handed)
        (window.run s).2.server := by
  intro window
  by_cases hb : p.IsBindable
  · obtain ⟨result, events, server', hrecords, hcases⟩ :=
      m.run_selectSql_cases (windowOf p st) s decode
    have hwindow : window.run s =
        (result.map fun records => ⟨n, p.size, p.number, records⟩,
          s.record .query (windowOf p st) server' events) := by
      rw [Operation.run_bind, Dialect.page_of_isBindable hb]
      change (m.selectSql decode (windowOf p st) >>= fun records =>
        (return ⟨n, p.size, p.number, records⟩ : Operation τ σ (Page β))).run s = _
      rw [Operation.run_bind, hrecords]
      cases result <;> rfl
    rw [hwindow]
    refine ⟨[windowOf p st], rfl, ?_⟩
    rcases hcases with ⟨reason, hw, rfl⟩ |
      ⟨found, hw, ⟨row, hrow, e, hunread, rfl⟩ | ⟨records, hdecoded, rfl⟩⟩
    · exact .windowFailed count total hn hb hw
    · exact .windowUnread count total hn hb hw hrow hunread
    · exact .page count total hn hb hw hdecoded
  · have hwindow : window.run s = (.error (.invalidField p.refusal), s) := by
      rw [Operation.run_bind, Dialect.page_of_not_isBindable hb]
      rfl
    rw [hwindow]
    exact ⟨[], (List.append_nil _).symm, .refused count total hn hb⟩

theorem pageRun_selectPage (m : Mapper τ σ) (decode : Decoder β) (page : PageRequest)
    (st : Statement) (s : Session τ σ) :
    ∃ handed, ((m.selectPage decode page st).run s).2.sent = s.sent ++ handed.map (Sent.mk .query) ∧
      PageRun m decode (m.boundedPage page) st s.server ((m.selectPage decode page st).run s).1
        handed ((m.selectPage decode page st).run s).2.server := by
  generalize hp : m.boundedPage page = p
  obtain ⟨events, hcount⟩ := m.run_readCount (countOf st) s
  have hselect : (m.selectCount st).run s = (m.readCount (countOf st)).run s := rfl
  rw [selectPage, hp, Operation.run_bind, hselect, hcount]
  cases hq : m.executor.query (countOf st) s.server with
  | mk answer server' =>
    cases answer with
    | error reason => exact ⟨[countOf st], rfl, .countFailed hq⟩
    | ok rows =>
      cases htotal : counted rows with
      | error e =>
        simp only [Except.mapError, bind_ok, htotal]
        exact ⟨[countOf st], rfl, .countUnread hq htotal⟩
      | ok n =>
        simp only [Except.mapError, bind_ok, htotal]
        by_cases hn : n = 0
        · subst hn
          exact ⟨[countOf st], rfl, .empty hq htotal⟩
        · rw [if_neg hn]
          have hq' : m.executor.query (countOf st) s.server =
              (.ok rows, (s.record .query (countOf st) server' events).server) := hq
          obtain ⟨handed, hsent, hrun⟩ := pageRun_window hq' htotal hn
          refine ⟨countOf st :: handed, hsent.trans ?_, hrun⟩
          simp [Session.record]

/-- A request is refused exactly if there are rows and it cannot be bound. -/
theorem PageRun.invalidField_iff {decode : Decoder β} {p : PageRequest} {st : Statement}
    {server server' : τ} {result : Except MapperError (Page β)} {handed : List Statement}
    (h : PageRun m decode p st server result handed server') :
    (∃ cause, result = .error (.invalidField cause)) ↔
      ∃ rows n, (m.executor.query (countOf st) server).1 = .ok rows ∧ counted rows = .ok n ∧
        n ≠ 0 ∧ ¬p.IsBindable := by
  cases h with
  | countFailed count => simp [count]
  | countUnread count unread => simp [count, unread]
  | empty count total => simp [count, total]
  | refused count total hn unbindable => simpa [count, total, hn] using unbindable
  | windowFailed count total hn bindable => simp [count, bindable]
  | windowUnread count total hn bindable => simp [count, bindable]
  | page count total hn bindable => simp [count, bindable]

/-- The page shows the offset that was bound for it. -/
theorem PageRun.offset_toNat {decode : Decoder β} {p : PageRequest} {st : Statement}
    {server server' : τ} {page : Page β} {handed : List Statement}
    (h : PageRun m decode p st server (.ok page) handed server') (hn : page.total ≠ 0) :
    page.offset.toNat = p.before ∧ p.IsBindable := by
  cases h with
  | empty => exact absurd rfl hn
  | page count total hn bindable =>
    have hbefore := bindable.before
    exact ⟨Page.offset_toNat (Nat.lt_trans hbefore (by decide)), bindable⟩

/-- A page has the size that was asked for within the bound, and at least number 1. It takes a count
of the whole query and, where there are rows and the request can be bound, one more query. -/
theorem selectPage_run (m : Mapper τ σ) (decode : Decoder β) (page : PageRequest)
    (st : Statement) (s : Session τ σ) :
    let p := m.boundedPage page
    let run := (m.selectPage decode page st).run s
    (p.orders = page.orders ∧ p.number.toNat = max page.current.toNat 1 ∧
      match m.config.maxPageSize with
      | none => p.size = page.size
      | some greatest =>
        p.size = (if page.size = 0 ∨ greatest < page.size then greatest else page.size) ∧
          1 ≤ p.size ∧ p.size ≤ greatest) ∧
    (∃ handed, run.2.sent = s.sent ++ handed.map (Sent.mk .query) ∧
      PageRun m decode p st s.server run.1 handed run.2.server) ∧
    ((∃ cause, run.1 = .error (.invalidField cause)) ↔
      ∃ rows n, (m.executor.query (countOf st) s.server).1 = .ok rows ∧ counted rows = .ok n ∧
        n ≠ 0 ∧ ¬p.IsBindable) ∧
    ∀ result, run.1 = .ok result → result.total ≠ 0 → result.offset.toNat = p.before := by
  intro p run
  obtain ⟨handed, hsent, hrun⟩ := pageRun_selectPage m decode page st s
  refine ⟨⟨m.boundedPage_orders page, ?_, m.boundedPage_size page⟩, ⟨handed, hsent, hrun⟩,
    hrun.invalidField_iff, fun result hresult hn => ?_⟩
  · rw [PageRequest.number_toNat, m.boundedPage_current]
  · exact (PageRun.offset_toNat (hresult ▸ hrun) hn).1

/-- Blanks around an order column, which are no part of an identifier, do no harm. -/
theorem selectPage_order_between_blanks :
    let m : Mapper Script Unit := ⟨Script.executor, .empty, .default⟩
    let server : Script :=
      ⟨[[.ofList [("count(*)", .bigint 3)]], [.ofList [("id", .bigint 7)]]], [], [], 0⟩
    let page : PageRequest := ⟨1, 10, [⟨" id ", true⟩]⟩
    let run := (m.selectPage (Row.toScalar (.base .int64)) page ⟨"SELECT id FROM account", []⟩).run
      ⟨server, (), [], []⟩
    Text.isIdentifier " id ".toList = false ∧ run.1 = .ok ⟨3, 10, 1, [(7 : Int64)]⟩ ∧
      run.2.sent.map (fun x => x.statement.sql) =
        ["SELECT count(*) FROM (SELECT id FROM account) t",
          "SELECT * FROM (SELECT id FROM account) t ORDER BY id asc LIMIT ? OFFSET ?"] := by
  intro m server page run
  exact ⟨by decide, rfl, rfl⟩

end Mapper

end SqlMapper
