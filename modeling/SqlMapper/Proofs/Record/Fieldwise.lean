import Mathlib.Data.List.Nodup
import SqlMapper.Proofs.Outcome
import SqlMapper.Record.Basic

/-! Objects compared field by field. Writing a value into the field of a column changes that one
field, nested or not, and where columns are distinct it is the only one with the column. -/

namespace SqlMapper

theorem FieldSpec.column_columnMeta (s : FieldSpec) : s.columnMeta.column = s.column := by
  have hc (c : ColumnMeta) (column : String) :
      (c.withCompareColumn column).column = c.column := by
    rw [ColumnMeta.withCompareColumn]
    split <;> rfl
  rw [columnMeta, ColumnMeta.withPrimaryKey, hc]
  rfl

namespace Fields

def columnNames (f : Fields) : List String :=
  f.columns.map fun c => c.column

theorem columnNames_value (spec : FieldSpec) (type : FieldType) (rest : Fields) :
    (value spec type rest).columnNames =
      (if spec.exist then [spec.column] else []) ++ rest.columnNames := by
  by_cases he : spec.exist = true <;>
    simp [columnNames, columns, he, FieldSpec.column_columnMeta]

theorem columnNames_nested (spec : FieldSpec) (inner rest : Fields) :
    (nested spec inner rest).columnNames =
      (if spec.exist then inner.columnNames else []) ++ rest.columnNames := by
  by_cases he : spec.exist = true <;> simp [columnNames, columns, he]

theorem length_values (f : Fields) (object : f.Object) :
    (f.values object).length = f.columns.length := by
  induction f with
  | nil => rfl
  | value spec type rest ih =>
    obtain ⟨v, vs⟩ := object
    by_cases he : spec.exist = true <;> simp [values, columns, he, ih vs]
  | nested spec inner rest ihi ih =>
    obtain ⟨v, vs⟩ := object
    by_cases he : spec.exist = true <;> simp [values, columns, he, ihi v, ih vs]

theorem zip_columnNames_value (spec : FieldSpec) (type : FieldType) (rest : Fields) (v : type.Value)
    (vs : rest.Object) :
    (value spec type rest).columnNames.zip ((value spec type rest).values (v, vs)) =
      (if spec.exist then [(spec.column, cell type v)] else []) ++
        rest.columnNames.zip (rest.values vs) := by
  by_cases he : spec.exist = true <;> simp [columnNames_value, values, he]

theorem zip_columnNames_nested (spec : FieldSpec) (inner rest : Fields) (v : inner.Object)
    (vs : rest.Object) :
    (nested spec inner rest).columnNames.zip ((nested spec inner rest).values (v, vs)) =
      (if spec.exist then inner.columnNames.zip (inner.values v) else []) ++
        rest.columnNames.zip (rest.values vs) := by
  have hlen : inner.columnNames.length = (inner.values v).length := by
    rw [columnNames, List.length_map, length_values]
  by_cases he : spec.exist = true
  · rw [columnNames_nested, values, if_pos he, if_pos he, if_pos he, List.zip_append hlen]
  · simp [columnNames_nested, values, he]

/-- Related, if there is a column for it, and otherwise the same. -/
def Related (exist : Bool) (P : α → α → Prop) (v w : α) : Prop :=
  if exist then P v w else w = v

theorem Related.refl {exist : Bool} {P : α → α → Prop} {v : α} (h : exist = true → P v v) :
    Related exist P v v := by
  rw [Related]
  split
  · exact h ‹_›
  · rfl

theorem Related.trans {exist : Bool} {P Q O : α → α → Prop} {u v w : α}
    (h : P u v → Q v w → O u w) (huv : Related exist P u v) (hvw : Related exist Q v w) :
    Related exist O u w := by
  cases exist with
  | false => exact Eq.trans hvw huv
  | true => exact h huv hvw

theorem Related.imp {exist : Bool} {P Q : α → α → Prop} {v w : α}
    (h : exist = true → P v w → Q v w) (hvw : Related exist P v w) : Related exist Q v w := by
  cases exist with
  | false => exact hvw
  | true => exact h rfl hvw

/-- Two objects side by side: fields that have a column are related, and whatever does not exist
in the table is the same in both. -/
def Fieldwise (R : String → (t : FieldType) → t.Value → t.Value → Prop) :
    (f : Fields) → f.Object → f.Object → Prop
  | .nil, _, _ => True
  | .value spec type rest, (v, vs), (w, ws) =>
    Related spec.exist (R spec.column type) v w ∧ rest.Fieldwise R vs ws
  | .nested spec inner rest, (v, vs), (w, ws) =>
    Related spec.exist (inner.Fieldwise R) v w ∧ rest.Fieldwise R vs ws

variable {R S T : String → (t : FieldType) → t.Value → t.Value → Prop}

theorem Fieldwise.refl {f : Fields} (h : ∀ c ∈ f.columnNames, ∀ t v, R c t v v)
    (object : f.Object) : f.Fieldwise R object object := by
  induction f with
  | nil => trivial
  | value spec type rest ih =>
    obtain ⟨v, vs⟩ := object
    rw [columnNames_value] at h
    exact ⟨.refl fun he => h _ (by simp [he]) type v,
      ih (fun c hc => h c (List.mem_append_right _ hc)) vs⟩
  | nested spec inner rest ihi ih =>
    obtain ⟨v, vs⟩ := object
    rw [columnNames_nested] at h
    exact ⟨.refl fun he => ihi (fun c hc => h c (by simp [he, hc])) v,
      ih (fun c hc => h c (List.mem_append_right _ hc)) vs⟩

theorem Fieldwise.trans {f : Fields} {a b c : f.Object}
    (h : ∀ n t u v w, R n t u v → S n t v w → T n t u w)
    (hab : f.Fieldwise R a b) (hbc : f.Fieldwise S b c) : f.Fieldwise T a c := by
  induction f with
  | nil => trivial
  | value spec type rest ih =>
    exact ⟨hab.1.trans (h _ _ _ _ _) hbc.1, ih hab.2 hbc.2⟩
  | nested spec inner rest ihi ih =>
    exact ⟨hab.1.trans ihi hbc.1, ih hab.2 hbc.2⟩

theorem Fieldwise.imp {f : Fields} {a b : f.Object}
    (h : ∀ c t v w, (c, cell t v) ∈ f.columnNames.zip (f.values a) → R c t v w → S c t v w)
    (hab : f.Fieldwise R a b) : f.Fieldwise S a b := by
  induction f with
  | nil => trivial
  | value spec type rest ih =>
    rw [zip_columnNames_value] at h
    exact ⟨hab.1.imp fun he => h _ _ _ _ (by simp [he]),
      ih (fun c t v w hm => h c t v w (List.mem_append_right _ hm)) hab.2⟩
  | nested spec inner rest ihi ih =>
    rw [zip_columnNames_nested] at h
    exact ⟨hab.1.imp fun he => ihi fun c t v w hm => h c t v w (by simp [he, hm]),
      ih (fun c t v w hm => h c t v w (List.mem_append_right _ hm)) hab.2⟩

/-- A value goes to the first of two places that takes it, and to the first one only if that
exists in the table. -/
def firstOf (exist : Bool) (here : Except DataError (Option α)) (there : Except DataError (Option β))
    (v : α) (vs : β) : Except DataError (Option (α × β)) :=
  match if exist then here else .ok none with
  | .error e => .error e
  | .ok (some w) => .ok (some (w, vs))
  | .ok none => there.map (·.map fun ws => (v, ws))

section FirstOf

variable {exist : Bool} {here : Except DataError (Option α)} {there : Except DataError (Option β)}
  {v w : α} {vs ws : β} {e : DataError}

theorem firstOf_eq_none (h : firstOf exist here there v vs = .ok none) :
    (exist = true → here = .ok none) ∧ there = .ok none := by
  unfold firstOf at h
  split at h
  · simp at h
  · simp at h
  · rename_i hhere
    obtain ⟨r, hr, hn⟩ := exists_of_map_eq_ok h
    exact ⟨fun he => by rwa [if_pos he] at hhere,
      hr.trans (congrArg _ (Option.map_eq_none_iff.mp hn))⟩

theorem firstOf_eq_some (h : firstOf exist here there v vs = .ok (some (w, ws))) :
    (exist = true ∧ here = .ok (some w) ∧ ws = vs) ∨
      (exist = true → here = .ok none) ∧ w = v ∧ there = .ok (some ws) := by
  unfold firstOf at h
  split at h
  · simp at h
  · rename_i w' hhere
    obtain ⟨rfl, rfl⟩ : w' = w ∧ vs = ws := by simpa using h
    split at hhere
    · exact .inl ⟨‹_›, hhere, rfl⟩
    · simp at hhere
  · rename_i hhere
    obtain ⟨r, hr, hs⟩ := exists_of_map_eq_ok h
    obtain ⟨x, rfl, hpair⟩ := Option.map_eq_some_iff.mp hs
    obtain ⟨rfl, rfl⟩ : v = w ∧ x = ws := by simpa using hpair
    exact .inr ⟨fun he => by rwa [if_pos he] at hhere, rfl, hr⟩

theorem firstOf_eq_error (h : firstOf exist here there v vs = .error e) :
    (exist = true ∧ here = .error e) ∨ there = .error e := by
  unfold firstOf at h
  split at h
  · rename_i e' hhere
    obtain rfl : e' = e := Except.error.inj h
    split at hhere
    · exact .inl ⟨‹_›, hhere⟩
    · simp at hhere
  · simp at h
  · cases there with
    | error e' =>
      obtain rfl : e' = e := Except.error.inj h
      exact .inr rfl
    | ok r => simp [Except.map] at h

end FirstOf

/-- A field takes the values of its own column. -/
def take (type : FieldType) (own column : String) (x : SqlValue) :
    Except DataError (Option type.Value) :=
  if column = own then (type.ofSql x).map some else .ok none

theorem take_eq_some {type : FieldType} {own column : String} {x : SqlValue} {w : type.Value}
    (h : take type own column x = .ok (some w)) : own = column ∧ type.ofSql x = .ok w := by
  rw [take] at h
  split at h
  · obtain ⟨w', hw, he⟩ := exists_of_map_eq_ok h
    exact ⟨Eq.symm ‹_›, hw.trans (congrArg _ (Option.some.inj he))⟩
  · simp at h

theorem take_eq_none {type : FieldType} {own column : String} {x : SqlValue}
    (h : take type own column x = .ok none) : own ≠ column := by
  rintro rfl
  rw [take, if_pos rfl] at h
  obtain ⟨w, -, hw⟩ := exists_of_map_eq_ok h
  simp at hw

theorem take_eq_error {type : FieldType} {own column : String} {x : SqlValue} {e : DataError}
    (h : take type own column x = .error e) : own = column ∧ type.ofSql x = .error e := by
  rw [take] at h
  split at h
  · refine ⟨Eq.symm ‹_›, ?_⟩
    cases hx : type.ofSql x with
    | error e' => simpa [hx, Except.map] using h
    | ok w => simp [hx, Except.map] at h
  · simp at h

theorem fill_value (spec : FieldSpec) (type : FieldType) (rest : Fields) (column : String)
    (x : SqlValue) (v : type.Value) (vs : rest.Object) :
    (value spec type rest).fill column x (v, vs) =
      firstOf spec.exist (take type spec.column column x) (rest.fill column x vs) v vs := by
  rw [fill, take, firstOf]
  cases spec.exist with
  | false => rfl
  | true =>
    by_cases hc : column = spec.column
    · simp only [hc, beq_self_eq_true, Bool.and_self, if_true]
      cases type.ofSql x <;> rfl
    · simp only [beq_eq_false_iff_ne.mpr hc, Bool.and_false, Bool.false_eq_true, if_false, hc,
        if_true]

theorem fill_nested (spec : FieldSpec) (inner rest : Fields) (column : String)
    (x : SqlValue) (v : inner.Object) (vs : rest.Object) :
    (nested spec inner rest).fill column x (v, vs) =
      firstOf spec.exist (inner.fill column x v) (rest.fill column x vs) v vs := by
  rw [fill, firstOf]
  cases spec.exist with
  | false => rfl
  | true =>
    cases inner.fill column x v with
    | error e => rfl
    | ok written => cases written <;> rfl

theorem not_mem_of_fill_eq_none {f : Fields} {column : String} {x : SqlValue}
    {object : f.Object} (h : f.fill column x object = .ok none) : column ∉ f.columnNames := by
  induction f with
  | nil => simp [columnNames, columns]
  | value spec type rest ih =>
    rw [fill_value] at h
    obtain ⟨hhere, hthere⟩ := firstOf_eq_none h
    rw [columnNames_value, List.mem_append, not_or]
    refine ⟨?_, ih hthere⟩
    by_cases he : spec.exist = true
    · simpa [he] using (take_eq_none (hhere he)).symm
    · simp [he]
  | nested spec inner rest ihi ih =>
    rw [fill_nested] at h
    obtain ⟨hhere, hthere⟩ := firstOf_eq_none h
    rw [columnNames_nested, List.mem_append, not_or]
    refine ⟨?_, ih hthere⟩
    by_cases he : spec.exist = true
    · simpa [he] using ihi (hhere he)
    · simp [he]

theorem mem_of_fill_eq_some {f : Fields} {column : String} {x : SqlValue}
    {object object' : f.Object} (h : f.fill column x object = .ok (some object')) :
    column ∈ f.columnNames := by
  induction f with
  | nil => simp [fill] at h
  | value spec type rest ih =>
    rw [fill_value] at h
    rw [columnNames_value, List.mem_append]
    rcases firstOf_eq_some h with ⟨he, hhere, -⟩ | ⟨-, -, hthere⟩
    · exact .inl (by simp [he, (take_eq_some hhere).1])
    · exact .inr (ih hthere)
  | nested spec inner rest ihi ih =>
    rw [fill_nested] at h
    rw [columnNames_nested, List.mem_append]
    rcases firstOf_eq_some h with ⟨he, hhere, -⟩ | ⟨-, -, hthere⟩
    · exact .inl (by simpa [he] using ihi hhere)
    · exact .inr (ih hthere)

/-- The field that took the value is related by what the value converts to. All others keep
theirs; unless columns repeat, none of them has the column. -/
theorem fieldwise_of_fill {f : Fields} {column : String} {x : SqlValue} {object object' : f.Object}
    (h : f.fill column x object = .ok (some object'))
    (hset : ∀ t v w, t.ofSql x = .ok w → R column t v w)
    (hkeep : ∀ c t v, (c = column → ¬f.columnNames.Nodup) → R c t v v) :
    f.Fieldwise R object object' := by
  induction f with
  | nil => trivial
  | value spec type rest ih =>
    rw [fill_value] at h
    rw [columnNames_value] at hkeep
    rcases firstOf_eq_some h with ⟨he, hhere, hrest⟩ | ⟨hhere, hsame, hthere⟩
    · obtain ⟨hc, hw⟩ := take_eq_some hhere
      refine ⟨?_, ?_⟩
      · rw [Related, if_pos he, hc]
        exact hset _ _ _ hw
      · rw [hrest]
        refine Fieldwise.refl (fun c hm t v => hkeep c t v ?_) _
        rintro rfl hn
        simp [he, hc, hm] at hn
    · refine ⟨?_, ih hthere fun c t v hd => hkeep c t v fun hc hn => hd hc hn.of_append_right⟩
      rw [hsame]
      exact .refl fun he => hkeep _ _ _ fun hc => absurd hc (take_eq_none (hhere he))
  | nested spec inner rest ihi ih =>
    rw [fill_nested] at h
    rw [columnNames_nested] at hkeep
    rcases firstOf_eq_some h with ⟨he, hhere, hrest⟩ | ⟨hhere, hsame, hthere⟩
    · rw [if_pos he] at hkeep
      refine ⟨?_, ?_⟩
      · rw [Related, if_pos he]
        exact ihi hhere fun c t v hd => hkeep c t v fun hc hn => hd hc hn.of_append_left
      · rw [hrest]
        refine Fieldwise.refl (fun c hm t v => hkeep c t v ?_) _
        rintro rfl hn
        exact List.disjoint_of_nodup_append hn (mem_of_fill_eq_some hhere) hm
    · refine ⟨?_, ih hthere fun c t v hd => hkeep c t v fun hc hn => hd hc hn.of_append_right⟩
      rw [hsame]
      refine .refl fun he => Fieldwise.refl (fun c hm t v => hkeep c t v fun hc => ?_) _
      exact absurd (hc ▸ hm) (not_mem_of_fill_eq_none (hhere he))

/-- Where a value does not convert, it is for a field of its column that it does not. -/
theorem exists_of_fill_eq_error {f : Fields} {column : String} {x : SqlValue} {e : DataError}
    {object a b : f.Object} (h : f.fill column x object = .error e) (hab : f.Fieldwise R a b) :
    ∃ t v w, t.ofSql x = .error e ∧ R column t v w := by
  induction f with
  | nil => simp [fill] at h
  | value spec type rest ih =>
    rw [fill_value] at h
    rcases firstOf_eq_error h with ⟨he, hhere⟩ | hthere
    · obtain ⟨hc, hx⟩ := take_eq_error hhere
      have hr := hab.1
      rw [Related, if_pos he, hc] at hr
      exact ⟨type, _, _, hx, hr⟩
    · exact ih hthere hab.2
  | nested spec inner rest ihi ih =>
    rw [fill_nested] at h
    rcases firstOf_eq_error h with ⟨he, hhere⟩ | hthere
    · have hr := hab.1
      rw [Related, if_pos he] at hr
      exact ihi hhere hr
    · exact ih hthere hab.2

end Fields

end SqlMapper
