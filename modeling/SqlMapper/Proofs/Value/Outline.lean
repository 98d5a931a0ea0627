import SqlMapper.Value.Basic

/-! What is left of a value when its content is taken out: its kind, whether it is blank, and
the outlines of its items or bounds. -/

namespace SqlMapper.SqlValue

mutual

def outline : SqlValue → SqlValue
  | .null => .null
  | .bool _ => .bool false
  | .tinyint _ => .tinyint 0
  | .smallint _ => .smallint 0
  | .int _ => .int 0
  | .bigint _ => .bigint 0
  | .float _ => .float .zero
  | .double _ => .double .zero
  | .char _ => .char 'x'
  | .text s => .text (if s.isEmpty then "" else "x")
  | .json _ => .json .null
  | .uuid _ => .uuid .nil
  | .date _ => .date .epoch
  | .time _ => .time .midnight
  | .dateTime _ => .dateTime .epoch
  | .timestamp _ => .timestamp .epoch
  | .list items => .list (outlines items)
  | .between left right => .between (outline left) (outline right)

def outlines : List SqlValue → List SqlValue
  | [] => []
  | v :: vs => outline v :: outlines vs

end

@[simp] theorem outlines_eq_map (vs : List SqlValue) : outlines vs = vs.map outline := by
  induction vs with
  | nil => rfl
  | cons v vs ih => rw [outlines, ih, List.map_cons]

@[simp] theorem isBlank_outline (v : SqlValue) : v.outline.isBlank = v.isBlank := by
  cases v with
  | text s => by_cases h : s.isEmpty = true <;> simp [outline, isBlank, h]
  | _ => rfl

@[simp] theorem isScalar_outline (v : SqlValue) : v.outline.isScalar = v.isScalar := by
  cases v <;> rfl

@[simp] theorem typeName_outline (v : SqlValue) : v.outline.typeName = v.typeName := by
  cases v <;> rfl

end SqlMapper.SqlValue
