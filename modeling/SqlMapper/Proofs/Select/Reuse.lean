import SqlMapper.Proofs.Select.Run

/-! Statements that are taken as a base again. What a run makes of a base has a `where` of its own,
which nothing that is appended takes away, so as a base it stays as it is. -/

namespace SqlMapper.Select

/-- What follows the text stands outside parentheses and quotes. -/
def EndsOutside (text : String) : Prop :=
  (text.toList.foldl Scan.step .start).isTopLevel = true

instance (text : String) : Decidable (EndsOutside text) :=
  inferInstanceAs (Decidable (_ = _))

/-- A text that needs no `where` and has no blanks at its ends. -/
structure Seeded (text : String) : Prop where
  hasWhere : hasOuterWhere text = true
  trimmed : Text.trim text = text

theorem joinSql_of_trimmed {sql text : String} (hsql : Text.trim sql = sql) (hne : sql ≠ "")
    (ht : Text.trim text ≠ "") : joinSql sql text = sql ++ " " ++ Text.trim text := by
  have hlast : sql.toList.getLast? ≠ some ' ' := fun h =>
    absurd (Text.isBlank_getLast_of_trim_eq hsql h) (by decide)
  simp [joinSql, ht, hne, hlast]

namespace Seeded

variable {sql : String}

theorem ne_empty (h : Seeded sql) : sql ≠ "" := by
  rintro rfl
  exact absurd h.hasWhere (by decide)

theorem append_space (h : Seeded sql) {text : String} (ht : Text.trim text = text)
    (hne : text ≠ "") : Seeded (sql ++ " " ++ text) := by
  refine ⟨?_, Text.trim_append_space h.trimmed h.ne_empty ht hne⟩
  rw [hasOuterWhere_spaced, h.hasWhere, Bool.true_or]

theorem joinSql (h : Seeded sql) (text : String) : Seeded (joinSql sql text) := by
  by_cases ht : Text.trim text = ""
  · have hsame : Select.joinSql sql text = sql := by simp [Select.joinSql, ht]
    rwa [hsame]
  · rw [joinSql_of_trimmed h.trimmed h.ne_empty ht]
    exact h.append_space (Text.trim_trim text) ht

/-- A call appends a text or leaves the statement as it is. -/
theorem perform {s : Select} (h : Seeded s.sql) (c : Call) : Seeded (s.perform c).sql := by
  rw [perform_eq]
  cases c.piece? s.link with
  | none => exact h
  | some p =>
    simp only [Option.elim_some]
    exact h.joinSql p.text

theorem run {s : Select} (h : Seeded s.sql) (steps : List Step) : Seeded (s.run steps).sql := by
  rw [run_eq_foldl]
  induction steps.flatMap Step.calls generalizing s with
  | nil => exact h
  | cons c calls ih => exact ih (h.perform c)

/-- A seeded text is what it is as a base. -/
theorem sql_ofBase (h : Seeded sql) : (ofBase sql).sql = sql := by
  rw [sql_ofBase_eq, if_pos h.hasWhere, h.trimmed]

end Seeded

theorem hasWhereFrom_seed {scan : Scan} (h : scan.isTopLevel = true) :
    hasWhereFrom scan false "WHERE 1=1".toList = true := by
  have hword : Text.startsWord "where".toList "WHERE 1=1".toList = true := by decide
  have hcons : "WHERE 1=1".toList = 'W' :: "HERE 1=1".toList := by decide
  rw [hcons] at hword ⊢
  rw [hasWhereFrom, h, hword]
  rfl

theorem seeded_ofBase {base : String} (h : EndsOutside base) : Seeded (ofBase base).sql := by
  rw [sql_ofBase_eq]
  by_cases hw : hasOuterWhere base = true
  · rw [if_pos hw]
    exact ⟨(hasOuterWhere_trim base).trans hw, Text.trim_trim base⟩
  · have hseed : Text.trim "WHERE 1=1" = "WHERE 1=1" := by decide
    rw [if_neg hw]
    by_cases ht : Text.trim base = ""
    · rw [ht]
      exact ⟨by decide, by decide⟩
    · rw [joinSql_of_trimmed (Text.trim_trim base) ht (by decide), hseed]
      refine ⟨?_, Text.trim_append_space (Text.trim_trim base) ht hseed (by decide)⟩
      rw [hasOuterWhere_spaced, foldl_step_trim, hasWhereFrom_seed h, Bool.or_true]

/-- Whatever is appended to a base, the statement has a `where`, and it stays as it is when it is
taken as a base again. -/
theorem sql_ofBase_run {base : String} (h : EndsOutside base) (steps : List Step) :
    OuterWhere ((ofBase base).run steps).sql ∧
      (ofBase ((ofBase base).run steps).sql).sql = ((ofBase base).run steps).sql ∧
      (ofBase (ofBase base).sql).sql = (ofBase base).sql := by
  have hbase : Seeded (ofBase base).sql := seeded_ofBase h
  have hrun : Seeded ((ofBase base).run steps).sql := hbase.run steps
  exact ⟨(hasOuterWhere_iff _).mp hrun.hasWhere, hrun.sql_ofBase, hbase.sql_ofBase⟩

/-- Neither the quoted `where` nor that of the parentheses counts, so one is appended, once. -/
theorem sql_ofBase_run_quoted :
    EndsOutside "select 'where' from (select 1 where 2) u\n" ∧
      (ofBase ((ofBase "select 'where' from (select 1 where 2) u\n").run
        [.condition "a" .eq (.int 7), .group .or [.condition "b" .gt (.int 8)]]).sql).sql =
      "select 'where' from (select 1 where 2) u WHERE 1=1 and a = ? or (b > ?)" := by
  have h : EndsOutside "select 'where' from (select 1 where 2) u\n" := by decide
  exact ⟨h, (sql_ofBase_run h _).2.1.trans (by decide)⟩

end SqlMapper.Select
