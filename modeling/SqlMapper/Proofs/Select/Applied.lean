import SqlMapper.Proofs.Outcome
import SqlMapper.Proofs.Select.Run

/-! A descriptor applied to a base statement. All its conditions are joined by `and`. -/

namespace SqlMapper.Select

def conditionsOf (fields : List FieldDescriptor) : List Call :=
  fields.map fun f => .condition f.compareColumn f.keyword f.value

/-- The conditions that are not left out. -/
def rendered (fields : List FieldDescriptor) : List Fragment :=
  fields.filterMap fun f => Fragment.rendered? f.compareColumn f.keyword f.value .and

/-- A base with a `where`. -/
def opened (base : String) : String :=
  Text.trim base ++ if OuterWhere base then "" else " WHERE 1=1"

theorem pending_conditionsOf (fields : List FieldDescriptor) :
    pending (conditionsOf fields) = .and := by
  cases fields using List.reverseRecOn with
  | nil => rfl
  | append_singleton fields f =>
    rw [conditionsOf, List.map_append, List.map_singleton, pending, pendingLink_concat]
    rfl

theorem pieces_conditionsOf (fields : List FieldDescriptor) :
    pieces (conditionsOf fields) = (rendered fields).map .condition := by
  induction fields using List.reverseRecOn with
  | nil => rfl
  | append_singleton fields f ih =>
    have hcalls : conditionsOf (fields ++ [f]) =
        conditionsOf fields ++ [.condition f.compareColumn f.keyword f.value] := by
      simp [conditionsOf]
    rw [hcalls, pieces_concat, ih, pending_conditionsOf, Call.piece?, rendered, rendered,
      List.filterMap_append, List.map_append]
    cases hf : Fragment.rendered? f.compareColumn f.keyword f.value .and <;> simp [hf]

theorem intercalate_cons (text : String) (texts : List String) :
    " ".intercalate (text :: texts) = text ++ String.join (texts.map fun t => " " ++ t) := by
  induction texts generalizing text with
  | nil => simp
  | cons t ts ih =>
    rw [String.intercalate_cons_cons, ih, List.map_cons, String.join_cons]
    simp only [String.append_assoc]

theorem written_cons {p : Piece} {ps : List Piece} (h : ∀ q ∈ p :: ps, q.text ≠ "") :
    written (p :: ps) = p.text ++ String.join (ps.map fun q => " " ++ q.text) := by
  have hall : ∀ t ∈ (p :: ps).map Piece.text, (!t.isEmpty) = true := by
    intro t ht
    obtain ⟨q, hq, rfl⟩ := List.mem_map.mp ht
    simpa using h q hq
  rw [written, List.filter_eq_self.mpr hall, List.map_cons, intercalate_cons, List.map_map]
  rfl

theorem link_of_mem_rendered {fields : List FieldDescriptor} {f : Fragment}
    (h : f ∈ rendered fields) : f.link = .and := by
  obtain ⟨field, -, hfield⟩ := List.mem_filterMap.mp h
  exact (Fragment.renders_of_render (Fragment.render_eq_ok_of_rendered? hfield)).link_eq

theorem written_applied {base : String} (hb : Text.trim base ≠ "")
    (fields : List FieldDescriptor) :
    written (opening (some base) ++ (rendered fields).map Piece.condition) =
      opened base ++ String.join ((rendered fields).map fun f => " and " ++ f.body) := by
  have htexts : String.join (((rendered fields).map Piece.condition).map fun q => " " ++ q.text) =
      String.join ((rendered fields).map fun f => " and " ++ f.body) := by
    rw [List.map_map]
    refine congrArg _ (List.map_congr_left fun f hf => ?_)
    simp [Piece.text, link_of_mem_rendered hf, Link.word, ← String.append_assoc]
  have hwhere : (Piece.raw "WHERE 1=1" []).text = "WHERE 1=1" := by decide
  rw [opening, opened]
  by_cases hw : OuterWhere base
  · rw [if_pos hw, if_pos hw, List.singleton_append, written_cons, htexts, String.append_empty]
    · rfl
    · simp [Piece.text, hb]
  · rw [if_neg hw, if_neg hw, List.cons_append, List.singleton_append, written_cons,
      List.map_cons, String.join_cons, htexts, hwhere]
    · simp only [Piece.text, String.append_assoc]
      rfl
    · have hne : Text.trim "WHERE 1=1" ≠ "" := by decide
      simp [Piece.text, hb, hne]

/-- What a descriptor adds to a base statement, or the first complaint about its values. -/
def filter (fields : List FieldDescriptor) : Except DataError Statement :=
  match refused (conditionsOf fields) with
  | e :: _ => .error e
  | [] => .ok ⟨String.join ((rendered fields).map fun f => " and " ++ f.body),
      (rendered fields).flatMap fun f => f.values⟩

theorem tryBuild_apply_eq {base : String} (hb : Text.trim base ≠ "") (t : TableDescriptor) :
    ((ofBase base).apply t).tryBuild =
      (filter t.fields).map fun f => ⟨opened base ++ f.sql, f.params⟩ := by
  have hcalls : [Step.apply t].flatMap Step.calls = conditionsOf t.fields := List.append_nil _
  have hrun : (ofBase base).apply t = _ := run_eq (some base) [.apply t]
  rw [hcalls, pieces_conditionsOf, written_applied hb] at hrun
  rw [hrun, tryBuild, filter]
  cases refused (conditionsOf t.fields) with
  | cons e es => rfl
  | nil =>
    rw [List.flatMap_map]
    rfl

theorem tryBuild_apply {base : String} {t : TableDescriptor} {st : Statement}
    (hb : Text.trim base ≠ "") (h : ((ofBase base).apply t).tryBuild = .ok st) :
    st.sql = opened base ++ String.join ((rendered t.fields).map fun f => " and " ++ f.body) ∧
      st.params = (rendered t.fields).flatMap fun f => f.values := by
  rw [tryBuild_apply_eq hb] at h
  obtain ⟨f, hf, rfl⟩ := exists_of_map_eq_ok h
  rw [filter] at hf
  split at hf
  · simp at hf
  · obtain rfl := Except.ok.inj hf
    exact ⟨rfl, rfl⟩

theorem mem_refused_conditionsOf {fields : List FieldDescriptor} {e : DataError} :
    e ∈ refused (conditionsOf fields) ↔
      ∃ f ∈ fields, Fragment.malformation? f.compareColumn f.keyword f.value = some e := by
  simp [refused, conditionsOf, Call.errors]

theorem filter_eq_ok {fields : List FieldDescriptor}
    (h : ∀ f ∈ fields, Fragment.malformation? f.compareColumn f.keyword f.value = none) :
    filter fields = .ok ⟨String.join ((rendered fields).map fun f => " and " ++ f.body),
      (rendered fields).flatMap fun f => f.values⟩ := by
  have hnone : refused (conditionsOf fields) = [] := by
    refine List.eq_nil_iff_forall_not_mem.mpr fun e he => ?_
    obtain ⟨f, hf, hm⟩ := mem_refused_conditionsOf.mp he
    simp [h f hf] at hm
  rw [filter, hnone]

theorem exists_of_filter_eq_error {fields : List FieldDescriptor} {e : DataError}
    (h : filter fields = .error e) :
    ∃ f ∈ fields, ∃ reason, e = Fragment.malformed f.compareColumn f.keyword reason := by
  rw [filter] at h
  split at h
  · rename_i e' es hr
    obtain rfl := Except.error.inj h
    obtain ⟨f, hf, hm⟩ := mem_refused_conditionsOf.mp (hr ▸ List.mem_cons_self)
    exact ⟨f, hf, Fragment.exists_of_malformation? hm⟩
  · simp at h

end SqlMapper.Select
