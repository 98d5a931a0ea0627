import SqlMapper.Proofs.Value.Outline
import SqlMapper.Select.Basic

/-! Building a statement from outlines of values builds the outline of the statement: the text
and the errors are the same, and every value is replaced by its outline. -/

namespace SqlMapper

namespace Fragment

def outline (f : Fragment) : Fragment :=
  { f with values := f.values.map SqlValue.outline }

theorem listItems_outline (v : SqlValue) :
    listItems v.outline = (listItems v).map fun items => items.map SqlValue.outline := by
  cases v <;> simp [SqlValue.outline, listItems]

theorem renderScalar_outline (column : String) (keyword : Keyword) (v : SqlValue) (link : Link) :
    renderScalar column keyword v.outline link =
      (renderScalar column keyword v link).map (Option.map outline) := by
  by_cases hv : v.isScalar = true <;> simp [renderScalar, hv, Except.map, outline]

theorem find?_notScalar_outline (items : List SqlValue) :
    (items.map SqlValue.outline).find? (fun v => !v.isScalar) =
      (items.find? fun v => !v.isScalar).map SqlValue.outline := by
  induction items with
  | nil => rfl
  | cons v vs ih => cases hv : v.isScalar <;> simp [hv, ih]

theorem renderList_outline (column : String) (keyword : Keyword) (v : SqlValue) (link : Link) :
    renderList column keyword v.outline link =
      (renderList column keyword v link).map (Option.map outline) := by
  rw [renderList, listItems_outline, renderList]
  cases hi : listItems v with
  | none => rfl
  | some items =>
    cases items with
    | nil => rfl
    | cons w ws =>
      have hf := find?_notScalar_outline (w :: ws)
      rw [List.map_cons] at hf
      cases hn : (w :: ws).find? (fun v => !v.isScalar) with
      | none => simp [hf, hn, Except.map, outline]
      | some u => simp [hf, hn, Except.map]

theorem renderRange_outline (column : String) (keyword : Keyword) (v : SqlValue) (link : Link) :
    renderRange column keyword v.outline link =
      (renderRange column keyword v link).map (Option.map outline) := by
  cases v with
  | between left right =>
    by_cases hb : (left.isBlank || right.isBlank) = true
    · simp [renderRange, SqlValue.outline, hb, Except.map]
    · by_cases hs : (!left.isScalar || !right.isScalar) = true
      · simp [renderRange, SqlValue.outline, hb, hs, Except.map]
      · simp [renderRange, SqlValue.outline, hb, hs, Except.map, outline]
  | _ => rfl

theorem render_outline (column : String) (keyword : Keyword) (v : SqlValue) (link : Link) :
    render column keyword v.outline link =
      (render column keyword v link).map (Option.map outline) := by
  simp only [render, SqlValue.isBlank_outline, renderList_outline, renderRange_outline,
    renderScalar_outline]
  split
  · rfl
  · split
    · rfl
    · split <;> rfl

end Fragment

def FieldDescriptor.outline (f : FieldDescriptor) : FieldDescriptor :=
  { f with value := f.value.outline }

def TableDescriptor.outline (t : TableDescriptor) : TableDescriptor :=
  { t with fields := t.fields.map FieldDescriptor.outline }

namespace Group

def outline (g : Group) : Group :=
  { g with fragments := g.fragments.map Fragment.outline }

def Step.outline : Step → Step
  | .condition column keyword value => .condition column keyword value.outline
  | .nextLink link => .nextLink link
  | .push f => .push f.outline

theorem step_outline (g : Group) (s : Step) : g.outline.step s.outline = (g.step s).outline := by
  cases s with
  | condition column keyword value =>
    have hr := Fragment.render_outline column keyword value g.link
    cases h : Fragment.render column keyword value g.link with
    | ok f => cases f <;> simp [h, Except.map, step, condition, Step.outline, outline, hr]
    | error e => simp [h, Except.map, step, condition, Step.outline, outline, hr]
  | nextLink link => rfl
  | push f => simp [step, push, Step.outline, outline]

theorem collect_outline (steps : List Step) :
    collect (steps.map Step.outline) = (collect steps).outline := by
  suffices h : ∀ g : Group,
      (steps.map Step.outline).foldl step g.outline = (steps.foldl step g).outline from h empty
  induction steps with
  | nil => intro g; rfl
  | cons s steps ih =>
    intro g
    rw [List.map_cons, List.foldl_cons, step_outline, ih, List.foldl_cons]

theorem body_outline (fragments : List Fragment) :
    body (fragments.map Fragment.outline) = body fragments := by
  cases fragments with
  | nil => rfl
  | cons f fs =>
    simp only [List.map_cons, body, List.map_map]
    rfl

end Group

namespace Select

def outline (s : Select) : Select :=
  { s with values := s.values.map SqlValue.outline }

def Step.outline : Step → Step
  | .condition column keyword value => .condition column keyword value.outline
  | .nextLink link => .nextLink link
  | .append sql => .append sql
  | .appendWith sql values => .appendWith sql (values.map SqlValue.outline)
  | .apply d => .apply d.outline
  | .group link steps => .group link (steps.map Group.Step.outline)

theorem appendWith_outline (s : Select) (text : String) (values : List SqlValue) :
    s.outline.appendWith text (values.map SqlValue.outline) =
      (s.appendWith text values).outline := by
  simp [appendWith, outline]

theorem condition_outline (s : Select) (column : String) (keyword : Keyword) (value : SqlValue) :
    s.outline.condition column keyword value.outline =
      (s.condition column keyword value).outline := by
  have hr := Fragment.render_outline column keyword value s.link
  cases h : Fragment.render column keyword value s.link with
  | ok f =>
    cases f <;> simp [h, Except.map, condition, outline, hr, appendWith, Fragment.outline]
  | error e => simp [h, Except.map, condition, outline, hr]

theorem apply_outline (s : Select) (d : TableDescriptor) :
    s.outline.apply d.outline = (s.apply d).outline := by
  suffices h : ∀ (fields : List FieldDescriptor) (s : Select),
      (fields.map FieldDescriptor.outline).foldl applyField s.outline =
        (fields.foldl applyField s).outline from h d.fields s
  intro fields
  induction fields with
  | nil => intro s; rfl
  | cons f fs ih =>
    intro s
    have hf : s.outline.applyField f.outline = (s.applyField f).outline :=
      condition_outline s f.compareColumn f.keyword f.value
    rw [List.map_cons, List.foldl_cons, hf, ih, List.foldl_cons]

theorem group_outline (s : Select) (link : Link) (g : Group) :
    s.outline.group link g.outline = (s.group link g).outline := by
  have hv : (g.fragments.map Fragment.outline).flatMap (fun f => f.values) =
      (g.fragments.flatMap fun f => f.values).map SqlValue.outline := by
    simp [List.flatMap_map, List.map_flatMap, Fragment.outline]
  by_cases he : g.fragments = []
  · simp [group, Group.isEmpty, Group.outline, outline, he]
  · simp [group, Group.isEmpty, Group.outline, outline, he, Group.body_outline, hv, appendWith]

theorem step_outline (s : Select) (step : Step) :
    s.outline.step step.outline = (s.step step).outline := by
  cases step with
  | condition column keyword value => exact condition_outline s column keyword value
  | nextLink link => rfl
  | append sql => simp only [Select.step, Step.outline, append, outline]
  | appendWith sql values => exact appendWith_outline s sql values
  | apply d => exact apply_outline s d
  | group link steps =>
    simpa only [Select.step, Step.outline, Group.collect_outline] using
      group_outline s link (Group.collect steps)

theorem run_outline (s : Select) (steps : List Step) :
    s.outline.run (steps.map Step.outline) = (s.run steps).outline := by
  induction steps generalizing s with
  | nil => rfl
  | cons step steps ih =>
    have hh := ih (s.step step)
    rw [← step_outline] at hh
    exact hh

/-- No values come with a base. -/
theorem ofBase_outline (base : String) : (ofBase base).outline = ofBase base := by
  by_cases h : hasOuterWhere base = true <;> simp [ofBase, h, outline, append, empty]

end Select

end SqlMapper
