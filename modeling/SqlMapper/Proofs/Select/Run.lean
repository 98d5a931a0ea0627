import SqlMapper.Proofs.Select.Meaning

/-! Runs of the builder have the meaning of their calls. -/

namespace SqlMapper

theorem Group.body_eq_intercalate (first : Fragment) (rest : List Fragment) :
    Group.body (first :: rest) =
      " ".intercalate (first.body :: rest.flatMap fun f => [f.link.word, f.body]) := by
  suffices h : ∀ text : String,
      text ++ String.join (rest.map fun f => " " ++ f.link.word ++ " " ++ f.body) =
        " ".intercalate (text :: rest.flatMap fun f => [f.link.word, f.body]) from h first.body
  induction rest with
  | nil => simp
  | cons f fs ih =>
    intro text
    have hh := ih f.body
    simp only [List.flatMap_cons, List.cons_append, List.nil_append,
      String.intercalate_cons_cons, ← hh, List.map_cons, String.join_cons]
    simp only [String.append_assoc]

namespace Select

def perform (s : Select) : Call → Select
  | .condition column keyword value => s.condition column keyword value
  | .nextLink link => s.nextLink link
  | .append text values => s.appendWith text values
  | .group link steps => s.group link (Group.collect steps)

theorem step_eq_foldl (s : Select) (step : Step) : s.step step = step.calls.foldl perform s := by
  cases step with
  | append text => simp [Select.step, Step.calls, perform, Select.append, appendWith]
  | apply d =>
    simp only [Select.step, Step.calls, Select.apply, List.foldl_map]
    rfl
  | _ => rfl

theorem run_eq_foldl (s : Select) (steps : List Step) :
    s.run steps = (steps.flatMap Step.calls).foldl perform s := by
  induction steps generalizing s with
  | nil => rfl
  | cons step steps ih =>
    have hh := ih (s.step step)
    simpa only [run, List.foldl_cons, List.flatMap_cons, List.foldl_append, step_eq_foldl] using hh

theorem joinSql_trim (sql text : String) : joinSql sql (Text.trim text) = joinSql sql text := by
  simp only [joinSql, Text.trim_trim]

theorem joinSql_empty (text : String) : joinSql "" text = Text.trim text := by
  by_cases ht : (Text.trim text).isEmpty = true
  · have hempty : Text.trim text = "" := by simpa using ht
    simp [joinSql, hempty]
  · simp [joinSql, ht]

/-- A base is trimmed, and gets a `where` if it has none. -/
theorem sql_ofBase_eq (base : String) :
    (ofBase base).sql =
      if hasOuterWhere base then Text.trim base else joinSql (Text.trim base) "WHERE 1=1" := by
  by_cases hw : hasOuterWhere base = true
  · simp [ofBase, hw, Select.append, empty, joinSql_empty]
  · simp [ofBase, hw, Select.append, empty, joinSql_empty]

theorem perform_eq (s : Select) (c : Call) :
    s.perform c =
      ⟨(c.piece? s.link).elim s.sql fun p => joinSql s.sql p.text,
        s.values ++ (c.piece? s.link).elim [] Piece.values,
        if c.spendsLink then .and else c.link?.getD s.link, s.errors ++ c.errors⟩ := by
  cases c with
  | condition column keyword value =>
    cases hr : Fragment.render column keyword value s.link with
    | ok f =>
      have hm := Fragment.malformation?_eq_none_of_ok hr
      cases f <;>
        simp [perform, condition, appendWith, Call.piece?, Call.errors, Call.spendsLink,
          Fragment.rendered?, Piece.text, Piece.values, hr, hm]
    | error e =>
      have hm := (Fragment.render_eq_error_iff column keyword value s.link e).mp hr
      simp [perform, condition, Call.piece?, Call.errors, Call.spendsLink, Fragment.rendered?,
        hr, hm]
  | nextLink link =>
    simp [perform, nextLink, Call.piece?, Call.errors, Call.spendsLink, Call.link?]
  | append text values =>
    simp [perform, appendWith, Call.piece?, Call.errors, Call.spendsLink, Call.link?, Piece.text,
      Piece.values, joinSql_trim]
  | group link steps =>
    cases hc : Group.collected steps with
    | nil =>
      simp [perform, Select.group, Group.collect_eq, Group.isEmpty, hc, Call.piece?, Call.errors,
        Call.spendsLink]
    | cons first rest =>
      simp [perform, Select.group, Group.collect_eq, Group.isEmpty, hc, Call.piece?, Call.errors,
        Call.spendsLink, appendWith, Piece.text, Piece.values, Group.body_eq_intercalate]

theorem trim_text_of_mem_opening {base : Option String} {p : Piece} (h : p ∈ opening base) :
    Text.trim p.text = p.text := by
  cases base with
  | none => simp [opening] at h
  | some base =>
    have hp : p = .raw base [] ∨ p = .raw "WHERE 1=1" [] := by
      rcases List.mem_cons.mp h with h | h
      · exact .inl h
      · split at h
        · simp at h
        · exact .inr (List.mem_singleton.mp h)
    rcases hp with rfl | rfl <;> exact Text.trim_trim _

theorem pieces_concat (calls : List Call) (c : Call) :
    pieces (calls ++ [c]) = pieces calls ++ (c.piece? (pending calls)).toList :=
  addedFrom_concat _ [] calls c

theorem trim_text_of_mem_pieces {calls : List Call} {p : Piece} (h : p ∈ pieces calls) :
    Text.trim p.text = p.text := by
  obtain ⟨earlier, c, -, hc⟩ := exists_of_mem_addedFrom h
  exact trim_text_of_piece? (Option.mem_toList.mp hc)

theorem start_eq (base : Option String) : start base = ⟨written (opening base), [], .and, []⟩ := by
  cases base with
  | none => rfl
  | some base =>
    have hb : joinSql "" base = written [.raw base []] := by
      have hh : joinSql (written []) (Piece.raw base []).text = written [.raw base []] :=
        joinSql_written (by simp) (Text.trim_trim base)
      rwa [Piece.text, joinSql_trim] at hh
    by_cases hw : OuterWhere base
    · simp [start, ofBase, Select.append, empty, opening, (hasOuterWhere_iff base).mpr hw, hw, hb]
    · have hw' : hasOuterWhere base = false :=
        Bool.eq_false_iff.mpr fun h => hw ((hasOuterWhere_iff base).mp h)
      have hh : joinSql (written [.raw base []]) (Piece.raw "WHERE 1=1" []).text =
          written [.raw base [], .raw "WHERE 1=1" []] :=
        joinSql_written (by simp [Piece.text, Text.trim_trim]) (Text.trim_trim _)
      rw [Piece.text, joinSql_trim] at hh
      simpa [start, ofBase, Select.append, empty, opening, hw, hw', hb] using hh

theorem foldl_perform_eq (base : Option String) (calls : List Call) :
    calls.foldl perform (start base) =
      ⟨written (opening base ++ pieces calls), (pieces calls).flatMap Piece.values,
        pending calls, refused calls⟩ := by
  induction calls using List.reverseRecOn with
  | nil => simp [start_eq, pieces, addedFrom, pending, pendingLink, refused]
  | append_singleton calls c ih =>
    have htrim : ∀ p ∈ opening base ++ pieces calls, Text.trim p.text = p.text := by
      intro p hp
      rcases List.mem_append.mp hp with hp | hp
      · exact trim_text_of_mem_opening hp
      · exact trim_text_of_mem_pieces hp
    have hpending : pending (calls ++ [c]) =
        if c.spendsLink then .and else c.link?.getD (pending calls) :=
      pendingLink_concat _ _ calls c
    rw [List.foldl_append, ih, List.foldl_cons, List.foldl_nil, perform_eq, hpending, pieces_concat]
    cases hp : c.piece? (pending calls) with
    | none => simp [refused]
    | some p =>
      have hj := joinSql_written htrim (trim_text_of_piece? hp)
      simp [refused, hj]

theorem run_eq (base : Option String) (steps : List Step) :
    (start base).run steps =
      ⟨written (opening base ++ pieces (steps.flatMap Step.calls)),
        (pieces (steps.flatMap Step.calls)).flatMap Piece.values,
        pending (steps.flatMap Step.calls), refused (steps.flatMap Step.calls)⟩ := by
  rw [run_eq_foldl, foldl_perform_eq]

/-- Every run has the meaning of its calls, whatever order they come in. -/
theorem run_meaning (base : Option String) (steps : List Step) :
    let calls := steps.flatMap Step.calls
    let s := (start base).run steps
    s.sql = written (opening base ++ pieces calls) ∧
      s.values = (pieces calls).flatMap Piece.values ∧
      s.errors = refused calls ∧
      s.tryBuild = match refused calls with
        | e :: _ => .error e
        | [] =>
          .ok ⟨written (opening base ++ pieces calls), (pieces calls).flatMap Piece.values⟩ := by
  intro calls s
  have hs : s = ⟨written (opening base ++ pieces calls), (pieces calls).flatMap Piece.values,
      pending calls, refused calls⟩ := by
    rw [← foldl_perform_eq, ← run_eq_foldl]
  rw [hs]
  exact ⟨rfl, rfl, rfl, rfl⟩

example : ((start (some "select * from t")).run
    [.condition "c" .eq (.int 3), .nextLink .or, .append " ",
      .group .or [.condition "a" .eq (.int 1), .condition "x" .eq .null, .nextLink .or,
        .condition "b" .like (.text "x")], .condition "d" .ge (.int 4)]).sql =
    "select * from t WHERE 1=1 and c = ? or (a = ? or b like CONCAT('%', ?, '%')) and d >= ?" := by
  decide

/-- The values given with a blank text are bound although no piece of the statement has a
placeholder for them. -/
theorem values_of_blank_text :
    ((start none).run [.appendWith " " [.int 1]]).values ≠
      ((pieces [.append " " [.int 1]]).filter fun p => !p.text.isEmpty).flatMap Piece.values := by
  intro h
  exact absurd (congrArg List.length h) (by decide)

end Select

end SqlMapper
