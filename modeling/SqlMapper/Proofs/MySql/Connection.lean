import SqlMapper.MySql.Connection
import SqlMapper.Proofs.Outcome

/-! Calls on one connection, one after the other. A call fails without harm, except for one that
binds a date without a form on the server: it breaks off with the lock in its hands, and no call
after it reaches the server. -/

namespace SqlMapper

/-- The year of a value that is sent as a date. -/
def SqlValue.year? : SqlValue → Option Int
  | .date d => some d.year
  | .dateTime t => some t.date.year
  | .timestamp t => some t.utc.date.year
  | _ => none

/-- A date in a year that the server does not have. -/
def SqlValue.IsFormless (x : SqlValue) : Prop :=
  ∃ year, x.year? = some year ∧ ¬(1000 ≤ year ∧ year ≤ 9999)

namespace MySql

theorem DateParts.ofDateTime?_eq_none_iff {t : Calendar.DateTime} :
    DateParts.ofDateTime? t = none ↔ ¬(1000 ≤ t.date.year ∧ t.date.year ≤ 9999) := by
  unfold DateParts.ofDateTime?
  split <;> simp_all

namespace Wire

theorem ofSql?_eq_none_iff {x : SqlValue} : ofSql? x = none ↔ x.IsFormless := by
  cases x with
  | date d | dateTime t | timestamp t =>
    simp [ofSql?, DateParts.ofDateTime?_eq_none_iff, SqlValue.IsFormless, SqlValue.year?]
  | _ => simp [ofSql?, SqlValue.IsFormless, SqlValue.year?]

theorem mapM_ofSql?_eq_none_iff {params : List SqlValue} :
    params.mapM ofSql? = none ↔ ∃ x ∈ params, x.IsFormless := by
  induction params with
  | nil => simp
  | cons x params ih =>
    rw [List.mapM_cons, List.exists_mem_cons_iff, ← ih, ← ofSql?_eq_none_iff]
    cases ofSql? x with
    | none => simp
    | some w => cases params.mapM ofSql? <;> simp

theorem ofParams?_eq_none_iff {params : List SqlValue} :
    ofParams? params = none ↔ ∃ x ∈ params, x.IsFormless := by
  cases params with
  | nil => simp [ofParams?]
  | cons x params =>
    rw [← mapM_ofSql?_eq_none_iff]
    simp [ofParams?]

end Wire

/-- The next event that reaches the server is not refused. -/
def Server.Serves (s : Server) : Prop := s.events.length ∉ s.failures

instance (s : Server) : Decidable s.Serves := inferInstanceAs (Decidable (_ ∉ _))

/-- The channel with one more event at its server. -/
def Channel.reached (ch : Channel) (e : Event) : Channel :=
  ⟨ch.connection, { ch.server with events := ch.server.events ++ [e] }⟩

/-- The channel with its lock unusable. -/
def Channel.broken (ch : Channel) : Channel :=
  ⟨{ ch.connection with poisoned := true }, ch.server⟩

/-- The call came back and had the lock. -/
def IsAnswer (r : Except CallError α) : Prop := r ≠ .error .panic ∧ r ≠ .error .locked

namespace Call

theorem onChannel_bind (x : Call α) (f : α → Call β) (ch : Channel) :
    (x >>= f).onChannel ch =
      match x.onChannel ch with
      | (.ok a, ch') => (f a).onChannel ch'
      | (.error e, ch') => (.error e, ch') := by
  change (ExceptT.bindCont f (x.onChannel ch).1) (x.onChannel ch).2 = _
  rcases x.onChannel ch with ⟨_ | _, ch'⟩ <;> rfl

theorem onChannel_submit (e : Event) (ch : Channel) :
    (submit e).onChannel ch =
      (if ch.server.Serves then .ok () else .error (.refused Server.refusal), ch.reached e) := by
  have hserved : (!ch.server.failures.contains ch.server.events.length) = true ↔
      ch.server.Serves := by
    simp [Server.Serves]
  exact Prod.ext (if_congr hserved rfl rfl) rfl

/-- On a usable lock the call comes back and leaves the lock usable. -/
def Keeps (x : Call α) : Prop :=
  ∀ ch, ch.connection.poisoned = false →
    IsAnswer (x.onChannel ch).1 ∧ (x.onChannel ch).2.connection.poisoned = false

theorem Keeps.bind {x : Call α} {f : α → Call β} (hx : x.Keeps) (hf : ∀ a, (f a).Keeps) :
    (x >>= f).Keeps := by
  intro ch hch
  have hkept := hx ch hch
  rw [onChannel_bind]
  rcases hr : x.onChannel ch with ⟨e | a, ch'⟩
  · rw [hr] at hkept
    simpa [IsAnswer] using hkept
  · rw [hr] at hkept
    exact hf a ch' hkept.2

theorem keeps_pure (a : α) : Keeps (pure a) := fun _ hch => ⟨⟨nofun, nofun⟩, hch⟩

theorem keeps_lock : lock.Keeps := by
  intro ch hch
  change IsAnswer (if ch.connection.poisoned then _ else _) ∧ _
  rw [if_neg (by simp [hch])]
  exact ⟨⟨nofun, nofun⟩, hch⟩

theorem keeps_submit (e : Event) : (submit e).Keeps := by
  intro ch hch
  rw [onChannel_submit]
  refine ⟨?_, hch⟩
  split <;> exact ⟨nofun, nofun⟩

theorem onChannel_bindParams_of_eq {params : List SqlValue} {wires : Option (List Wire)}
    (h : Wire.ofParams? params = some wires) (ch : Channel) :
    (bindParams params).onChannel ch = (.ok wires, ch) := by
  rw [onChannel, ExceptT.run, bindParams, h]

theorem onChannel_bindParams_of_formless {params : List SqlValue}
    (h : ∃ x ∈ params, x.IsFormless) (ch : Channel) :
    (bindParams params).onChannel ch = (.error .panic, ch.broken) := by
  rw [onChannel, ExceptT.run, bindParams, Wire.ofParams?_eq_none_iff.mpr h]
  rfl

theorem keeps_bindParams {params : List SqlValue} (h : ¬∃ x ∈ params, x.IsFormless) :
    (bindParams params).Keeps := by
  intro ch hch
  obtain ⟨wires, hwires⟩ := Option.ne_none_iff_exists'.mp (mt Wire.ofParams?_eq_none_iff.mp h)
  rw [onChannel_bindParams_of_eq hwires]
  exact ⟨⟨nofun, nofun⟩, hch⟩

theorem keeps_handOver {s : Statement} (h : ¬∃ x ∈ s.params, x.IsFormless) : (handOver s).Keeps :=
  keeps_lock.bind fun _ => (keeps_submit _).bind fun _ =>
    (keeps_bindParams h).bind fun wires => keeps_submit (.execute wires)

theorem keeps_throw (e : DataError) : Keeps (throw (.data e) : Call α) := fun _ hch =>
  ⟨⟨nofun, nofun⟩, hch⟩

theorem keeps_query {s : Statement} (h : ¬∃ x ∈ s.params, x.IsFormless) : (query s).Keeps := by
  refine (keeps_handOver h).bind fun _ => Keeps.bind (fun _ hch => ⟨⟨nofun, nofun⟩, hch⟩) fun r => ?_
  cases r.toRows with
  | error e => exact keeps_throw e
  | ok rows => exact keeps_pure rows

theorem keeps_execute {s : Statement} (h : ¬∃ x ∈ s.params, x.IsFormless) : (execute s).Keeps :=
  (keeps_handOver h).bind fun _ _ hch => ⟨⟨nofun, nofun⟩, hch⟩

theorem keeps_text (sql : String) : (text sql).Keeps :=
  keeps_lock.bind fun _ => keeps_submit _

theorem onChannel_lock_bind {ch : Channel} (hch : ch.connection.poisoned = false)
    (f : Unit → Call α) : (lock >>= f).onChannel ch = (f ()).onChannel ch := by
  have hlock : lock.onChannel ch = (.ok (), ch) := by
    change (if ch.connection.poisoned then _ else _, ch) = _
    rw [if_neg (by simp [hch])]
  rw [onChannel_bind, hlock]

theorem lock_bind_of_poisoned {ch : Channel} (hch : ch.connection.poisoned = true)
    (f : Unit → Call α) : (lock >>= f).onChannel ch = (.error .locked, ch) := by
  have hlock : lock.onChannel ch = (.error .locked, ch) := by
    change (if ch.connection.poisoned then _ else _, ch) = _
    rw [if_pos hch]
  rw [onChannel_bind, hlock]

/-- A statement that the server does not take is not bound either. -/
theorem handOver_of_refused {s : Statement} {ch : Channel} (hch : ch.connection.poisoned = false)
    (hs : ¬ch.server.Serves) :
    (handOver s).onChannel ch = (.error (.refused Server.refusal), ch.reached (.prepare s.sql)) := by
  rw [handOver, onChannel_lock_bind hch, onChannel_bind, onChannel_submit, if_neg hs]

theorem handOver_of_formless {s : Statement} {ch : Channel} (hch : ch.connection.poisoned = false)
    (hs : ch.server.Serves) (hx : ∃ x ∈ s.params, x.IsFormless) :
    (handOver s).onChannel ch = (.error .panic, (ch.reached (.prepare s.sql)).broken) := by
  rw [handOver, onChannel_lock_bind hch, onChannel_bind, onChannel_submit, if_pos hs]
  change (bindParams s.params >>= _).onChannel (ch.reached (.prepare s.sql)) = _
  rw [onChannel_bind, onChannel_bindParams_of_formless hx]

end Call

inductive Request where
  | query (s : Statement)
  | execute (s : Statement)
  | text (sql : String)

inductive Answer where
  | rows (rows : List Row)
  | affected (rows : UInt64)
  | done

namespace Request

/-- Texts bind no values. -/
def statement : Request → Statement
  | query s | execute s => s
  | text sql => ⟨sql, []⟩

def perform : Request → Call Answer
  | query s => Call.query s >>= fun rows => pure (.rows rows)
  | execute s => Call.execute s >>= fun n => pure (.affected n)
  | text sql => Call.text sql >>= fun _ => pure .done

/-- The request gets as far as a value that cannot be bound. -/
def Breaks (q : Request) (ch : Channel) : Prop :=
  ch.server.Serves ∧ ∃ x ∈ q.statement.params, x.IsFormless

open Call

theorem exists_perform_eq_bind (q : Request) :
    (∃ f, q.perform = handOver q.statement >>= f) ∨ ∃ sql, q = text sql := by
  cases q with
  | query s | execute s => exact .inl ⟨_, bind_assoc _ _ _⟩
  | text sql => exact .inr ⟨sql, rfl⟩

theorem perform_of_poisoned (q : Request) {ch : Channel} (hch : ch.connection.poisoned = true) :
    q.perform.onChannel ch = (.error .locked, ch) := by
  obtain ⟨f, hf⟩ | ⟨sql, rfl⟩ := q.exists_perform_eq_bind
  · rw [hf, onChannel_bind, handOver, lock_bind_of_poisoned hch]
  · rw [perform, onChannel_bind, Call.text, lock_bind_of_poisoned hch]

theorem perform_of_breaks {q : Request} {ch : Channel} (hch : ch.connection.poisoned = false)
    (hq : q.Breaks ch) :
    q.perform.onChannel ch = (.error .panic, (ch.reached (.prepare q.statement.sql)).broken) := by
  obtain ⟨f, hf⟩ | ⟨sql, rfl⟩ := q.exists_perform_eq_bind
  · rw [hf, onChannel_bind, handOver_of_formless hch hq.1 hq.2]
  · simp [Breaks, statement] at hq

theorem keeps_perform {q : Request} (h : ¬∃ x ∈ q.statement.params, x.IsFormless) :
    q.perform.Keeps := by
  cases q with
  | query s => exact (keeps_query h).bind fun _ => keeps_pure _
  | execute s => exact (keeps_execute h).bind fun _ => keeps_pure _
  | text sql => exact (keeps_text sql).bind fun _ => keeps_pure _

theorem perform_of_not_breaks {q : Request} {ch : Channel} (hch : ch.connection.poisoned = false)
    (hq : ¬q.Breaks ch) :
    IsAnswer (q.perform.onChannel ch).1 ∧ (q.perform.onChannel ch).2.connection.poisoned = false := by
  by_cases hx : ∃ x ∈ q.statement.params, x.IsFormless
  · -- the value is never looked at: the server has refused the statement before
    have hs : ¬ch.server.Serves := fun hs => hq ⟨hs, hx⟩
    obtain ⟨f, hf⟩ | ⟨sql, rfl⟩ := q.exists_perform_eq_bind
    · rw [hf, onChannel_bind, handOver_of_refused hch hs]
      exact ⟨⟨nofun, nofun⟩, hch⟩
    · simp [statement] at hx
  · exact keeps_perform hx ch hch

end Request

/-- The answers to requests in a row, and the channel after them. -/
def run : List Request → Channel → List (Except CallError Answer) × Channel
  | [], ch => ([], ch)
  | q :: qs, ch =>
    let (answer, ch') := q.perform.onChannel ch
    let (answers, last) := run qs ch'
    (answer :: answers, last)

theorem run_cons (q : Request) (qs : List Request) (ch : Channel) :
    run (q :: qs) ch =
      ((q.perform.onChannel ch).1 :: (run qs (q.perform.onChannel ch).2).1,
        (run qs (q.perform.onChannel ch).2).2) :=
  rfl

theorem run_append (before after : List Request) (ch : Channel) :
    run (before ++ after) ch =
      ((run before ch).1 ++ (run after (run before ch).2).1, (run after (run before ch).2).2) := by
  induction before generalizing ch with
  | nil => rfl
  | cons q before ih => rw [List.cons_append, run_cons, run_cons, ih, List.cons_append]

theorem run_of_poisoned (qs : List Request) {ch : Channel} (hch : ch.connection.poisoned = true) :
    run qs ch = (qs.map fun _ => .error .locked, ch) := by
  induction qs with
  | nil => rfl
  | cons q qs ih => rw [run_cons, q.perform_of_poisoned hch, ih, List.map_cons]

theorem run_of_breaks {q : Request} {ch : Channel} (hch : ch.connection.poisoned = false)
    (hq : q.Breaks ch) (qs : List Request) :
    run (q :: qs) ch = (.error .panic :: qs.map fun _ => .error .locked,
      (ch.reached (.prepare q.statement.sql)).broken) := by
  rw [run_cons, Request.perform_of_breaks hch hq, run_of_poisoned qs rfl]

theorem run_of_not_breaks {qs : List Request} {ch : Channel} (hch : ch.connection.poisoned = false)
    (h : ∀ before q after, qs = before ++ q :: after → ¬q.Breaks (run before ch).2) :
    (∀ r ∈ (run qs ch).1, IsAnswer r) ∧ (run qs ch).2.connection.poisoned = false := by
  induction qs generalizing ch with
  | nil => exact ⟨nofun, hch⟩
  | cons q qs ih =>
    obtain ⟨hanswer, hkept⟩ := Request.perform_of_not_breaks hch (h [] q qs rfl)
    obtain ⟨hanswers, hlast⟩ := ih hkept fun before p after hqs =>
      h (q :: before) p after (congrArg (q :: ·) hqs)
    exact ⟨List.forall_mem_cons.mpr ⟨hanswer, hanswers⟩, hlast⟩

/-- As long as every call is answered the lock is usable. -/
theorem poisoned_of_answers {qs : List Request} {ch : Channel}
    (hch : ch.connection.poisoned = false) (h : ∀ r ∈ (run qs ch).1, IsAnswer r) :
    (run qs ch).2.connection.poisoned = false := by
  induction qs generalizing ch with
  | nil => exact hch
  | cons q qs ih =>
    by_cases hq : q.Breaks ch
    · rw [run_of_breaks hch hq] at h
      exact absurd rfl (h _ List.mem_cons_self).1
    · exact ih (Request.perform_of_not_breaks hch hq).2 fun r hr => h r (List.mem_cons_of_mem _ hr)

/-- Requests are answered, each in its turn, until one binds a date without a form to a statement
that the server has taken. That one breaks off, and from then on the connection is of no use. -/
theorem answered_until_break (qs : List Request) {ch : Channel}
    (hch : ch.connection.poisoned = false) :
    ((∀ before q after, qs = before ++ q :: after → ¬q.Breaks (run before ch).2) →
      (∀ r ∈ (run qs ch).1, IsAnswer r) ∧ (run qs ch).2.connection.poisoned = false) ∧
    ∀ before q after, qs = before ++ q :: after → (∀ r ∈ (run before ch).1, IsAnswer r) →
      q.Breaks (run before ch).2 →
      (run qs ch).1 = (run before ch).1 ++ .error .panic :: after.map (fun _ => .error .locked) ∧
      (run qs ch).2 = ((run before ch).2.reached (.prepare q.statement.sql)).broken ∧
      (run qs ch).2.connection.lastInsertId = 0 := by
  refine ⟨run_of_not_breaks hch, ?_⟩
  rintro before q after rfl hanswers hq
  rw [run_append, run_of_breaks (poisoned_of_answers hch hanswers) hq]
  exact ⟨rfl, rfl, rfl⟩

/-- The last day before the first year of the server. -/
def dayBefore : Calendar.Date := ⟨999, 12, 31, by decide⟩

def bornOn (d : Calendar.Date) : Statement := ⟨"SELECT id FROM t_user WHERE born = ?", [.date d]⟩

def logged : Request := .execute ⟨"INSERT INTO t_log (id) VALUES (?)", [.bigint 1]⟩

def Channel.idle : Channel := ⟨.fresh, ⟨[], [], [], []⟩⟩

theorem answered_until_break_dayBefore :
    let requests := [logged, .query (bornOn dayBefore), logged]
    Channel.idle.connection.poisoned = false ∧
    (run requests .idle).1 = [.ok (.affected 1), .error .panic, .error .locked] ∧
    (run requests .idle).2.connection.lastInsertId = 0 := by
  intro requests
  have hidle : Channel.idle.connection.poisoned = false := rfl
  obtain ⟨-, hbreak⟩ := answered_until_break requests hidle
  have hfirst : ∀ r ∈ (run [logged] .idle).1, IsAnswer r :=
    List.forall_mem_singleton.mpr ⟨nofun, nofun⟩
  have hdate : (Request.query (bornOn dayBefore)).Breaks (run [logged] .idle).2 :=
    ⟨List.not_mem_nil, .date dayBefore, List.mem_singleton_self _, 999, rfl, by decide⟩
  obtain ⟨hanswers, -, hid⟩ := hbreak [logged] _ [logged] rfl hfirst hdate
  exact ⟨hidle, hanswers, hid⟩

/-- A query for a day, and then one without any values that the server would have answered. -/
theorem locked_after_dayBefore :
    (run [.query (bornOn dayBefore), .query ⟨"SELECT 1", []⟩] .idle).1 =
      [.error .panic, .error .locked] :=
  rfl

end MySql

end SqlMapper
