import SqlMapper.Condition.Fragment

/-! What a rendered condition consists of: its link, its column, and an operator with as many
placeholders as there are values. The link decides nothing else. -/

namespace SqlMapper

def Keyword.operator (k : Keyword) (n : Nat) : String :=
  if k.isList then
    (if k = .notIn then " not in (" else " in (") ++ placeholders "," n ++ ")"
  else if k.isRange then
    if k = .notBetween then " not between ? and ?" else " between ? and ?"
  else Fragment.scalarOperator k

def Keyword.Takes (k : Keyword) (n : Nat) : Prop :=
  if k.isList then 0 < n else if k.isRange then n = 2 else n = 1

/-- No operator ends in a blank, so trimming a condition takes nothing from its end. -/
theorem Keyword.getLast_operator (k : Keyword) (n : Nat) :
    ((k.operator n).toList.getLast?.any fun c => !Text.isBlank c) = true := by
  by_cases hl : k.isList = true
  · have hp : ")".toList.getLast? = some ')' := by decide
    simp only [operator, hl, if_true, String.toList_append, List.getLast?_append, hp,
      Option.some_or]
    decide
  · have hne : k.operator n = k.operator 0 := by simp [operator, hl]
    rw [hne]
    cases k <;> decide

/-- The values that an operator binds of what it is given, unless the condition is left out or the
value does not fit the operator. -/
def Keyword.bound? (k : Keyword) (value : SqlValue) : Option (List SqlValue) :=
  if value.isBlank then none
  else if k.isList then
    (Fragment.listItems value).filter fun items => !items.isEmpty && items.all SqlValue.isScalar
  else if k.isRange then
    match value with
    | .between left right =>
      if Between.isComplete ⟨left, right⟩ && left.isScalar && right.isScalar then
        some [left, right]
      else none
    | _ => none
  else if value.isScalar then some [value] else none

theorem Keyword.takes_of_bound? {k : Keyword} {value : SqlValue} {values : List SqlValue}
    (h : k.bound? value = some values) : k.Takes values.length := by
  by_cases hb : value.isBlank = true
  · simp [bound?, hb] at h
  by_cases hl : k.isList = true
  · simp only [bound?, hb, hl, if_true, Bool.false_eq_true, if_false, Option.filter_eq_some_iff,
      Bool.and_eq_true, Bool.not_eq_true', List.isEmpty_eq_false_iff] at h
    simpa [Takes, hl] using List.length_pos_iff.mpr h.2.1
  by_cases hr : k.isRange = true
  · cases value with
    | between left right =>
      simp only [bound?, hb, hl, hr, if_true, Bool.false_eq_true, if_false] at h
      split at h
      · obtain rfl := Option.some.inj h
        simp [Takes, hl, hr]
      · simp at h
    | _ => simp [bound?, hb, hl, hr] at h
  · simp only [bound?, hb, hl, hr, Bool.false_eq_true, if_false] at h
    split at h
    · obtain rfl := Option.some.inj h
      simp [Takes, hl, hr]
    · simp at h

namespace Fragment

structure Renders (f : Fragment) (column : String) (keyword : Keyword) (link : Link) : Prop where
  link_eq : f.link = link
  body_eq : f.body = column ++ keyword.operator f.values.length
  takes : keyword.Takes f.values.length

def rendered? (column : String) (keyword : Keyword) (value : SqlValue) (link : Link) :
    Option Fragment :=
  match render column keyword value link with
  | .ok f => f
  | .error _ => none

theorem rendered?_eq (column : String) (k : Keyword) (value : SqlValue) (link : Link) :
    rendered? column k value link =
      (k.bound? value).map fun values => ⟨link, column ++ k.operator values.length, values⟩ := by
  by_cases hb : value.isBlank = true
  · simp [rendered?, render, Keyword.bound?, hb]
  by_cases hl : k.isList = true
  · cases hi : listItems value with
    | none => simp [rendered?, render, renderList, Keyword.bound?, hb, hl, hi]
    | some items =>
      cases items with
      | nil => simp [rendered?, render, renderList, Keyword.bound?, Option.filter_some, hb, hl, hi]
      | cons v vs =>
        cases hn : (v :: vs).find? fun v => !v.isScalar with
        | some w =>
          have hall : (v :: vs).all SqlValue.isScalar = false := by
            have hw := List.find?_some hn
            exact List.all_eq_false.mpr ⟨w, List.mem_of_find?_eq_some hn, by simpa using hw⟩
          simp [rendered?, render, renderList, Keyword.bound?, Option.filter_some, hb, hl, hi, hn,
            hall]
        | none =>
          have hall : (v :: vs).all SqlValue.isScalar = true := by
            simpa using hn
          simp [rendered?, render, renderList, Keyword.bound?, Option.filter_some, hb, hl, hi, hn,
            hall, Keyword.operator, String.append_assoc]
  by_cases hr : k.isRange = true
  · cases value with
    | between left right =>
      have hin : Between.isComplete ⟨left, right⟩ = !(left.isBlank || right.isBlank) :=
        (Bool.not_or _ _).symm
      by_cases hc : (left.isBlank || right.isBlank) = true
      · simp [rendered?, render, renderRange, Keyword.bound?, hb, hl, hr, hin, hc]
      · cases hs : left.isScalar <;> cases ht : right.isScalar <;>
          simp [rendered?, render, renderRange, Keyword.bound?, Keyword.operator, hb, hl, hr, hin,
            hc, hs, ht]
    | _ => simp [rendered?, render, renderRange, Keyword.bound?, hb, hl, hr]
  · by_cases hs : value.isScalar = true <;>
      simp [rendered?, render, renderScalar, Keyword.bound?, hb, hl, hr, hs, Keyword.operator]

theorem renders_of_render {column : String} {keyword : Keyword} {value : SqlValue}
    {link : Link} {f : Fragment} (h : render column keyword value link = .ok (some f)) :
    f.Renders column keyword link := by
  have hr : rendered? column keyword value link = some f := by rw [rendered?, h]
  rw [rendered?_eq] at hr
  obtain ⟨values, hv, rfl⟩ := Option.map_eq_some_iff.mp hr
  exact ⟨rfl, rfl, Keyword.takes_of_bound? hv⟩

theorem render_link (column : String) (keyword : Keyword) (value : SqlValue) (link : Link) :
    render column keyword value link =
      (render column keyword value .and).map (Option.map fun f => f.withLink link) := by
  have hscalar : renderScalar column keyword value link =
      (renderScalar column keyword value .and).map (Option.map fun f => f.withLink link) := by
    by_cases hv : value.isScalar = true <;> simp [renderScalar, hv, Except.map, withLink]
  have hlist : renderList column keyword value link =
      (renderList column keyword value .and).map (Option.map fun f => f.withLink link) := by
    simp only [renderList]
    split
    · rfl
    · rfl
    · split <;> rfl
  have hrange : renderRange column keyword value link =
      (renderRange column keyword value .and).map (Option.map fun f => f.withLink link) := by
    cases value with
    | between left right =>
      simp only [renderRange]
      split
      · rfl
      · split <;> rfl
    | _ => rfl
  simp only [render, hscalar, hlist, hrange]
  split
  · rfl
  · split
    · rfl
    · split <;> rfl

def malformation? (column : String) (keyword : Keyword) (value : SqlValue) : Option DataError :=
  match render column keyword value .and with
  | .ok _ => none
  | .error e => some e

theorem render_eq_ok_of_rendered? {column : String} {keyword : Keyword} {value : SqlValue}
    {link : Link} {f : Fragment} (h : rendered? column keyword value link = some f) :
    render column keyword value link = .ok (some f) := by
  cases hr : render column keyword value link with
  | ok r => simpa [rendered?, hr] using h
  | error e => simp [rendered?, hr] at h

theorem render_eq_error_iff (column : String) (keyword : Keyword) (value : SqlValue) (link : Link)
    (e : DataError) :
    render column keyword value link = .error e ↔ malformation? column keyword value = some e := by
  rw [render_link, malformation?]
  cases render column keyword value .and <;> simp [Except.map]

theorem malformation?_eq_none_of_ok {column : String} {keyword : Keyword} {value : SqlValue}
    {link : Link} {f : Option Fragment} (h : render column keyword value link = .ok f) :
    malformation? column keyword value = none := by
  apply Option.eq_none_iff_forall_ne_some.mpr
  intro e he
  simp [(render_eq_error_iff column keyword value link e).mpr he] at h

/-- An outcome whose only errors are complaints about one condition. -/
def Complains (column : String) (keyword : Keyword) (x : Except DataError α) : Prop :=
  ∀ e, x = .error e → ∃ reason, e = malformed column keyword reason

namespace Complains

variable {column : String} {keyword : Keyword}

theorem ok (a : α) : Complains column keyword (.ok a) := by
  intro e h
  simp at h

theorem error (reason : Misfit) :
    Complains column keyword (.error (malformed column keyword reason) : Except DataError α) :=
  fun _ h => ⟨reason, (Except.error.inj h).symm⟩

theorem ite {p : Prop} [Decidable p] {x y : Except DataError α} (hx : Complains column keyword x)
    (hy : Complains column keyword y) : Complains column keyword (if p then x else y) := by
  split
  · exact hx
  · exact hy

end Complains

theorem complains_render (column : String) (keyword : Keyword) (value : SqlValue) (link : Link) :
    Complains column keyword (render column keyword value link) := by
  have hlist : Complains column keyword (renderList column keyword value link) := by
    rw [renderList]
    split
    · exact .error _
    · exact .ok _
    · split
      · exact .error _
      · exact .ok _
  have hrange : Complains column keyword (renderRange column keyword value link) := by
    cases value with
    | between left right => exact .ite (.ok _) (.ite (.error _) (.ok _))
    | _ => exact .error _
  exact .ite (.ok _) (.ite hlist (.ite hrange (.ite (.ok _) (.error _))))

theorem exists_of_malformation? {column : String} {keyword : Keyword} {value : SqlValue}
    {e : DataError} (h : malformation? column keyword value = some e) :
    ∃ reason, e = malformed column keyword reason :=
  complains_render column keyword value .and e
    ((render_eq_error_iff column keyword value .and e).mpr h)

end Fragment

end SqlMapper
