import Mathlib.Data.List.Induction
import Mathlib.Data.List.Nodup
import SqlMapper.Proofs.Criteria.Filled
import SqlMapper.Proofs.Outcome

/-! The runs of fill functions. An empty column that has a function gets one run of it, in the
order of the columns, each on the state that the run before it left. What the runs make is written
back in their order, up to the first value that does not convert. -/

namespace SqlMapper

structure FillRegistration (σ : Type) where
  trigger : Trigger
  column : String
  function : FillFunction σ

namespace FillRegistry

def ofRegistrations (rs : List (FillRegistration σ)) : FillRegistry σ :=
  rs.foldl (fun r x => r.register x.trigger x.column x.function) empty

/-- The function that was last registered for a column and a mode. -/
def last? (rs : List (FillRegistration σ)) (mode : Mode) (column : String) :
    Option (FillFunction σ) :=
  (rs.reverse.find? fun x => x.trigger.includes mode && x.column == column).map (·.function)

theorem last?_read (rs : List (FillRegistration σ)) (column : String) :
    last? rs .read column = none := by
  have hread : ∀ trigger : Trigger, trigger.includes .read = false := by
    intro trigger
    cases trigger <;> rfl
  simp [last?, hread]

theorem function?_ofRegistrations (rs : List (FillRegistration σ)) (mode : Mode)
    (column : String) : (ofRegistrations rs).function? mode column = last? rs mode column := by
  induction rs using List.reverseRecOn with
  | nil => cases mode <;> rfl
  | append_singleton rs x ih =>
    have hr : ofRegistrations (rs ++ [x]) =
        (ofRegistrations rs).register x.trigger x.column x.function := by
      simp [ofRegistrations]
    rw [hr, function?_register, ih, last?, last?, List.reverse_append, List.reverse_singleton,
      List.singleton_append, List.find?_cons]
    by_cases hx : (x.trigger.includes mode && x.column == column) = true <;> simp [hx]

end FillRegistry

namespace FillFunction

/-- The empty cells that have a function, each with its function. -/
def calls (function? : String → Option (FillFunction σ)) (cells : List Cell) :
    List (String × FillFunction σ) :=
  (cells.filter fun cell => cell.2.isNone).filterMap fun cell =>
    (function? cell.1.column).map fun f => (cell.1.column, f)

/-- Runs functions one after another and keeps what they make, less the nulls. -/
def runAll : List (String × FillFunction σ) → σ → List (String × SqlValue) × σ
  | [], state => ([], state)
  | (column, f) :: rest, state =>
    let run := f state
    let others := runAll rest run.2
    (((run.1.filter fun v => !v.isNull).map fun v => (column, v)).toList ++ others.1, others.2)

theorem calls_cons_some (function? : String → Option (FillFunction σ)) (column : ColumnMeta)
    (value : SqlValue) (rest : List Cell) :
    calls function? ((column, some value) :: rest) = calls function? rest := by
  simp [calls]

theorem calls_cons_none (function? : String → Option (FillFunction σ)) (column : ColumnMeta)
    (rest : List Cell) :
    calls function? ((column, none) :: rest) =
      ((function? column.column).map fun f => (column.column, f)).toList ++
        calls function? rest := by
  cases hf : function? column.column <;> simp [calls, hf]

theorem columns_runAll_sublist (calls : List (String × FillFunction σ)) (state : σ) :
    ((runAll calls state).1.map Prod.fst).Sublist (calls.map Prod.fst) := by
  induction calls generalizing state with
  | nil => exact List.Sublist.slnil
  | cons call rest ih =>
    obtain ⟨column, f⟩ := call
    have hh := ih (f state).2
    cases hv : (f state).1.filter fun v => !v.isNull with
    | none => simpa [runAll, hv] using hh.trans (List.sublist_cons_self _ _)
    | some v => simpa [runAll, hv] using hh

theorem columns_calls_sublist (function? : String → Option (FillFunction σ)) (cells : List Cell) :
    ((calls function? cells).map Prod.fst).Sublist (cells.map fun cell => cell.1.column) := by
  induction cells with
  | nil => exact List.Sublist.slnil
  | cons cell rest ih =>
    obtain ⟨column, value⟩ := cell
    cases value with
    | some v =>
      rw [calls_cons_some]
      exact ih.trans (List.sublist_cons_self _ _)
    | none =>
      rw [calls_cons_none]
      cases function? column.column with
      | none => exact ih.trans (List.sublist_cons_self _ _)
      | some f => simpa using ih

theorem exists_of_mem_runAll {calls : List (String × FillFunction σ)} {state : σ} {column : String}
    {v : SqlValue} (h : (column, v) ∈ (runAll calls state).1) :
    ∃ f state', (column, f) ∈ calls ∧ (f state').1 = some v ∧ v.isNull = false := by
  induction calls generalizing state with
  | nil => simp [runAll] at h
  | cons call rest ih =>
    obtain ⟨name, f⟩ := call
    rcases List.mem_append.mp h with h | h
    · obtain ⟨w, hw, hpair⟩ := Option.map_eq_some_iff.mp (Option.mem_toList.mp h)
      obtain ⟨rfl, rfl⟩ : name = column ∧ w = v := by simpa using hpair
      obtain ⟨hf, hn⟩ := Option.filter_eq_some_iff.mp hw
      exact ⟨f, state, List.mem_cons_self, hf, by simpa using hn⟩
    · obtain ⟨g, state', hg, hv⟩ := ih h
      exact ⟨g, state', List.mem_cons_of_mem _ hg, hv⟩

end FillFunction

open FillFunction (calls runAll)

namespace FillRegistry

/-- The functions registered for the empty cells of an object, as they are run. -/
def made (r : FillRegistry σ) (mode : Mode) (cells : List Cell) (state : σ) :
    List (String × SqlValue) × σ :=
  runAll (calls (r.function? mode) cells) state

theorem made_cons_some (r : FillRegistry σ) (mode : Mode) (column : ColumnMeta) (value : SqlValue)
    (rest : List Cell) (state : σ) :
    r.made mode ((column, some value) :: rest) state = r.made mode rest state := by
  rw [made, FillFunction.calls_cons_some, made]

theorem made_cons_none (r : FillRegistry σ) (mode : Mode) (column : ColumnMeta)
    (rest : List Cell) (state : σ) :
    r.made mode ((column, none) :: rest) state =
      (((r.fill mode column.column state).1.map fun v => (column.column, v)).toList ++
          (r.made mode rest (r.fill mode column.column state).2).1,
        (r.made mode rest (r.fill mode column.column state).2).2) := by
  rw [made, FillFunction.calls_cons_none, fill]
  cases r.function? mode column.column <;> rfl

theorem columns_made_sublist (r : FillRegistry σ) (mode : Mode) (cells : List Cell) (state : σ) :
    ((r.made mode cells state).1.map Prod.fst).Sublist (cells.map fun cell => cell.1.column) :=
  (FillFunction.columns_runAll_sublist _ _).trans (FillFunction.columns_calls_sublist _ _)

theorem exists_of_mem_made {r : FillRegistry σ} {mode : Mode} {cells : List Cell} {state : σ}
    {x : String × SqlValue} (h : x ∈ (r.made mode cells state).1) :
    (∃ column : ColumnMeta, column.column = x.1 ∧ (column, none) ∈ cells) ∧
      ∃ f state', r.function? mode x.1 = some f ∧ (f state').1 = some x.2 ∧ x.2.isNull = false := by
  obtain ⟨f, state', hcall, hv, hn⟩ := FillFunction.exists_of_mem_runAll h
  obtain ⟨⟨column, value⟩, hcell, hf⟩ := List.mem_filterMap.mp hcall
  obtain ⟨g, hg, hpair⟩ := Option.map_eq_some_iff.mp hf
  obtain ⟨hc, rfl⟩ : column.column = x.1 ∧ g = f := by simpa using hpair
  obtain ⟨hmem, hempty⟩ := List.mem_filter.mp hcell
  obtain rfl : value = none := by simpa using hempty
  exact ⟨⟨column, hc, hmem⟩, g, state', hc ▸ hg, hv, hn⟩

theorem made_nodup {r : FillRegistry σ} {mode : Mode} {cells : List Cell} {state : σ}
    (h : (cells.map fun cell => cell.1.column).Nodup) :
    ((r.made mode cells state).1.map Prod.fst).Nodup :=
  h.sublist (columns_made_sublist r mode cells state)

theorem state_filled (r : FillRegistry σ) (mode : Mode) (cells : List Cell) (state : σ) :
    (r.filled mode cells state).2 = (r.made mode cells state).2 := by
  induction cells generalizing state with
  | nil => rfl
  | cons cell rest ih =>
    obtain ⟨column, value⟩ := cell
    cases value with
    | some v => rw [filled, made_cons_some, ih]
    | none => rw [filled, made_cons_none, ih]

/-- Where columns are distinct, what a run makes goes to the one cell of its column. -/
theorem cells_filled (r : FillRegistry σ) (mode : Mode) {cells : List Cell} (state : σ)
    (h : (cells.map fun cell => cell.1.column).Nodup) :
    (r.filled mode cells state).1 =
      cells.map fun cell =>
        (cell.1, cell.2.or ((r.made mode cells state).1.lookup cell.1.column)) := by
  induction cells generalizing state with
  | nil => rfl
  | cons cell rest ih =>
    obtain ⟨column, value⟩ := cell
    obtain ⟨hnot, hrest⟩ := List.nodup_cons.mp h
    cases value with
    | some v => rw [filled, made_cons_some, ih state hrest, List.map_cons, Option.some_or]
    | none =>
      rw [filled, made_cons_none, ih _ hrest, List.map_cons, Option.none_or]
      have hne : ∀ name ∈ rest.map (fun cell => cell.1.column), name ≠ column.column :=
        by rintro name hm rfl; exact hnot hm
      generalize r.fill mode column.column state = run
      obtain ⟨value, next⟩ := run
      have hsub := columns_made_sublist r mode rest next
      generalize (r.made mode rest next).1 = others at hsub
      have habsent : others.lookup column.column = none :=
        OrderedMap.lookup_eq_none fun hc => hnot (hsub.subset hc)
      cases value with
      | none => simp [habsent]
      | some v =>
        have hother : rest.map (fun cell => (cell.1, cell.2.or (others.lookup cell.1.column))) =
            rest.map fun cell =>
              (cell.1, cell.2.or (((column.column, v) :: others).lookup cell.1.column)) := by
          refine List.map_congr_left fun cell hc => ?_
          rw [OrderedMap.lookup_cons_eq, if_neg (hne _ (List.mem_map_of_mem hc))]
        rw [hother]
        simp

end FillRegistry

namespace Criteria

/-- Writes values into an object one after another. A value without a field changes nothing. -/
def writeBack (c : Criteria α) : List (String × SqlValue) → α → Except DataError α
  | [], object => .ok object
  | (column, value) :: rest, object =>
    (c.fill column value object).bind fun written => c.writeBack rest (written.getD object)

/-- The values that a filling left unwritten: none if it succeeds, and otherwise the one that did
not convert and those after it. -/
def Leaves (c : Criteria α) (r : Filling α σ) (left : List (String × SqlValue)) : Prop :=
  match r.fields with
  | .ok _ => left = []
  | .error e => ∃ x more, left = x :: more ∧ c.fill x.1 x.2 r.object = .error e

theorem Leaves.andField {c : Criteria α} {r : Filling α σ} {left : List (String × SqlValue)}
    (h : c.Leaves r left) (f : FieldDescriptor) (events : Log) :
    c.Leaves (r.andField f events) left := by
  unfold Leaves at h ⊢
  cases hf : r.fields with
  | ok fields => simpa [Filling.andField, hf, Except.map] using h
  | error e => simpa [Filling.andField, hf, Except.map] using h

/-- Filling writes what the runs make, in their order, as far as it converts. -/
theorem exists_writeBack_fillCells (c : Criteria α) (fills : FillRegistry σ) (mode : Mode)
    (cells : List Cell) (object : α) (state : σ) :
    ∃ written left, (fills.made mode cells state).1 = written ++ left ∧
      c.writeBack written object = .ok (c.fillCells fills mode cells object state).object ∧
      c.Leaves (c.fillCells fills mode cells object state) left := by
  induction cells generalizing object state with
  | nil => exact ⟨[], [], rfl, rfl, rfl⟩
  | cons cell rest ih =>
    obtain ⟨column, value⟩ := cell
    cases value with
    | some v =>
      obtain ⟨written, left, hmade, hwrite, hleft⟩ := ih object state
      rw [FillRegistry.made_cons_some]
      exact ⟨written, left, hmade, hwrite, hleft.andField _ _⟩
    | none =>
      rw [FillRegistry.made_cons_none, fillCells]
      cases fills.fill mode column.column state with
      | mk value next =>
        cases value with
        | none => exact ih object next
        | some v =>
          cases hw : c.fill column.column v object with
          | error e =>
            simp only [hw]
            exact ⟨[], _, rfl, rfl, _, _, rfl, hw⟩
          | ok filled =>
            obtain ⟨written, left, hmade, hwrite, hleft⟩ := ih (filled.getD object) next
            have hwrite' : c.writeBack ((column.column, v) :: written) object =
                .ok (c.fillCells fills mode rest (filled.getD object) next).object := by
              rw [writeBack, hw, bind_ok, hwrite]
            refine ⟨(column.column, v) :: written, left, by simp [hmade], ?_⟩
            cases filled with
            | none =>
              simp only [hw]
              exact ⟨hwrite', hleft.andField _ _⟩
            | some object' =>
              simp only [hw]
              exact ⟨hwrite', hleft.andField _ _⟩

theorem writeBack_of_describe_eq_ok {c : Criteria α} {fills : FillRegistry σ} {mode : Mode}
    {object : α} {state : σ} {t : TableDescriptor}
    (h : c.describe (c.fillObject fills mode object state) = .ok t) :
    c.writeBack (fills.made mode (c.cells object) state).1 object =
      .ok (c.fillObject fills mode object state).object := by
  obtain ⟨written, left, hmade, hwrite, hleft⟩ :=
    c.exists_writeBack_fillCells fills mode (c.cells object) object state
  obtain ⟨fields, hfields, -⟩ := exists_of_map_eq_ok h
  rw [fillObject] at hfields
  obtain rfl : left = [] := by simpa [Leaves, hfields] using hleft
  rw [hmade, List.append_nil]
  exact hwrite

theorem exists_of_describe_eq_error {c : Criteria α} {fills : FillRegistry σ} {mode : Mode}
    {object : α} {state : σ} {cause : DataError}
    (h : c.describe (c.fillObject fills mode object state) = .error cause) :
    ∃ writes x more, (fills.made mode (c.cells object) state).1 = writes ++ x :: more ∧
      c.writeBack writes object = .ok (c.fillObject fills mode object state).object ∧
      c.fill x.1 x.2 (c.fillObject fills mode object state).object = .error cause := by
  obtain ⟨written, left, hmade, hwrite, hleft⟩ :=
    c.exists_writeBack_fillCells fills mode (c.cells object) object state
  have hfields := eq_error_of_map_eq_error h
  rw [fillObject] at hfields
  rw [Leaves, hfields] at hleft
  obtain ⟨x, more, rfl, hx⟩ := hleft
  exact ⟨written, x, more, hmade, hwrite, hx⟩

theorem fillCells_of_unregistered (c : Criteria α) {fills : FillRegistry σ} {mode : Mode}
    (h : ∀ column, fills.function? mode column = none) (cells : List Cell) (object : α)
    (state : σ) :
    c.fillCells fills mode cells object state =
      ⟨.ok (cells.filterMap fun cell => cell.2.map (FieldDescriptor.ofColumn cell.1)), object,
        state, []⟩ := by
  induction cells with
  | nil => rfl
  | cons cell rest ih =>
    obtain ⟨column, value⟩ := cell
    cases value with
    | some v =>
      rw [fillCells, ih]
      rfl
    | none =>
      rw [fillCells, FillRegistry.fill, h]
      exact ih

/-- Without a function for the mode, filling is extracting. -/
theorem fillObject_of_unregistered (c : Criteria α) {fills : FillRegistry σ} {mode : Mode}
    (h : ∀ column, fills.function? mode column = none) (object : α) (state : σ) :
    c.describe (c.fillObject fills mode object state) = .ok (c.extract object) ∧
      (c.fillObject fills mode object state).object = object ∧
      (c.fillObject fills mode object state).state = state := by
  rw [fillObject, c.fillCells_of_unregistered h]
  exact ⟨rfl, rfl, rfl⟩

end Criteria

end SqlMapper
