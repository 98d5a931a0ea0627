import SqlMapper.Row.Basic

/-! Rows read as single values. A row keeps one value for each name, in the place where the name came
first, so that its first value is the last one delivered under the name of the first column. -/

namespace SqlMapper

namespace OrderedMap

/-- The value of the last entry under a key. -/
def last? (entries : List (String × β)) (key : String) : Option β :=
  entries.reverse.lookup key

theorem last?_cons (k : String) (v : β) (rest : List (String × β)) (key : String) :
    last? ((k, v) :: rest) key = (last? rest key).or (if key = k then some v else none) := by
  rw [last?, List.reverse_cons, List.lookup_append, lookup_cons_eq, List.lookup_nil]
  rfl

theorem last?_eq_none {entries : List (String × β)} {key : String}
    (h : key ∉ entries.map Prod.fst) : last? entries key = none :=
  lookup_eq_none (by simpa using h)

theorem head?_insertEntry (first : String) (v : β) (rest : List (String × β)) (key : String)
    (value : β) :
    (insertEntry key value ((first, v) :: rest)).head? =
      some (first, if first = key then value else v) := by
  by_cases hkey : first = key
  · rw [insertEntry, if_pos hkey, if_pos hkey, List.head?_cons, hkey]
  · rw [insertEntry, if_neg hkey, if_neg hkey, List.head?_cons]

theorem head?_insert {m : OrderedMap β} {first : String} {v : β}
    (h : m.entries.head? = some (first, v)) (key : String) (value : β) :
    (m.insert key value).entries.head? = some (first, if first = key then value else v) := by
  obtain ⟨rest, hrest⟩ := List.head?_eq_some_iff.mp h
  have hentries : (m.insert key value).entries = insertEntry key value m.entries := rfl
  rw [hentries, hrest, head?_insertEntry]

theorem head?_foldl_insert {m : OrderedMap β} {first : String} {v : β}
    (h : m.entries.head? = some (first, v)) (entries : List (String × β)) :
    (entries.foldl (fun m e => m.insert e.1 e.2) m).entries.head? =
      some (first, (last? entries first).getD v) := by
  induction entries generalizing m v with
  | nil => exact h
  | cons e rest ih =>
    obtain ⟨k, x⟩ := e
    rw [List.foldl_cons, ih (head?_insert h k x), last?_cons]
    cases last? rest first with
    | some last => rfl
    | none => by_cases hk : first = k <;> simp [hk]

theorem head?_ofList (first : String) (v : β) (rest : List (String × β)) :
    (ofList ((first, v) :: rest)).entries.head? = some (first, (last? rest first).getD v) :=
  head?_foldl_insert rfl rest

end OrderedMap

namespace Row

open OrderedMap (last?)

theorem toScalar_ofList (t : FieldType) (first : String) (v : SqlValue)
    (rest : List (String × SqlValue)) :
    (ofList ((first, v) :: rest)).toScalar t = t.ofSql ((last? rest first).getD v) := by
  rw [toScalar, first?, ofList, OrderedMap.head?_ofList]
  rfl

/-- A row of one or more cells is read as a single value from the last cell under the name of the
first one. That gives the first cell if its name is not repeated, and otherwise where the same value
comes last. -/
theorem toScalar_first_name (first : String) (v : SqlValue) (rest : List (String × SqlValue)) :
    (∀ t : FieldType,
      (ofList ((first, v) :: rest)).toScalar t = t.ofSql ((last? rest first).getD v)) ∧
    (first ∉ rest.map Prod.fst →
      ∀ t : FieldType, (ofList ((first, v) :: rest)).toScalar t = t.ofSql v) ∧
    ((ofList ((first, v) :: rest)).toScalar (.base .any) = .ok v ↔
      (last? rest first).getD v = v) := by
  refine ⟨fun t => toScalar_ofList t first v rest, fun h t => ?_, ?_⟩
  · rw [toScalar_ofList, OrderedMap.last?_eq_none h, Option.getD_none]
  · rw [toScalar_ofList]
    exact ⟨Except.ok.inj, congrArg Except.ok⟩

theorem toScalar_first_name_counts :
    (ofList [("total", .bigint 3), ("id", .bigint 7), ("id", .bigint 8)]).toScalar (.base .int64) =
      .ok (3 : Int64) ∧
    (ofList [("id", .bigint 7), ("name", .text "jo"), ("id", .bigint 8)]).toScalar (.base .int64) =
      .ok (8 : Int64) :=
  ⟨(toScalar_first_name _ _ _).2.1 (by decide) _, (toScalar_first_name _ _ _).1 _⟩

/-- Of two columns of one name, as a join has them, the second one is read. -/
theorem toScalar_joined :
    (ofList [("id", .bigint 7), ("id", .bigint 8)]).toScalar (.base .int64) ≠
      FieldType.ofSql (.base .int64) (.bigint 7) := by
  rw [toScalar_ofList]
  intro h
  have hvalues : (8 : Int64) = 7 := Except.ok.inj h
  exact absurd hvalues (by decide)

end Row

end SqlMapper
