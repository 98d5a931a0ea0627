import SqlMapper.Criteria.Basic

/-! What a filling that succeeds comes to: the fields of the object's cells, its own and those
made for it. The write-back into the object has no part in them. -/

namespace SqlMapper

abbrev Cell := ColumnMeta × Option SqlValue

def TableMeta.describe (t : TableMeta) (cells : List Cell) : TableDescriptor :=
  .ofMeta t (cells.filterMap fun cell => cell.2.map (FieldDescriptor.ofColumn cell.1))

namespace FillRegistry

/-- The cells with what the registry makes for the empty ones, and the state after its functions
ran in the order of the cells. -/
def filled (r : FillRegistry σ) (mode : Mode) : List Cell → σ → List Cell × σ
  | [], state => ([], state)
  | (column, some value) :: rest, state =>
    ((column, some value) :: (r.filled mode rest state).1, (r.filled mode rest state).2)
  | (column, none) :: rest, state =>
    let made := r.fill mode column.column state
    ((column, made.1) :: (r.filled mode rest made.2).1, (r.filled mode rest made.2).2)

def filledRows (r : FillRegistry σ) (mode : Mode) : List (List Cell) → σ → List (List Cell) × σ
  | [], state => ([], state)
  | cells :: rest, state =>
    let row := r.filled mode cells state
    (row.1 :: (r.filledRows mode rest row.2).1, (r.filledRows mode rest row.2).2)

end FillRegistry

namespace Criteria

theorem extract_eq (c : Criteria α) (object : α) :
    c.extract object = c.table.describe (c.cells object) := rfl

theorem fillCells_eq_ok {c : Criteria α} {fills : FillRegistry σ} {mode : Mode} {cells : List Cell}
    {object : α} {state : σ} {fields : List FieldDescriptor}
    (h : (c.fillCells fills mode cells object state).fields = .ok fields) :
    fields = ((fills.filled mode cells state).1.filterMap fun cell =>
        cell.2.map (FieldDescriptor.ofColumn cell.1)) ∧
      (c.fillCells fills mode cells object state).state = (fills.filled mode cells state).2 := by
  induction cells generalizing object state fields with
  | nil => exact ⟨(Except.ok.inj h).symm, rfl⟩
  | cons cell rest ih =>
    -- every branch that goes on adds at most the one field of the cell
    have hand : ∀ {f : FieldDescriptor} {events : Log} {object : α} {state : σ}
        {fields : List FieldDescriptor},
        ((c.fillCells fills mode rest object state).andField f events).fields = .ok fields →
        fields = f :: ((fills.filled mode rest state).1.filterMap fun cell =>
            cell.2.map (FieldDescriptor.ofColumn cell.1)) ∧
          ((c.fillCells fills mode rest object state).andField f events).state =
            (fills.filled mode rest state).2 := by
      intro f events object state fields hf
      cases hr : (c.fillCells fills mode rest object state).fields with
      | error e => simp [Filling.andField, hr, Except.map] at hf
      | ok more =>
        have hf' : f :: more = fields := by simpa [Filling.andField, hr, Except.map] using hf
        obtain ⟨hmore, hstate⟩ := ih hr
        exact ⟨by rw [← hf', hmore], hstate⟩
    obtain ⟨column, value⟩ := cell
    cases value with
    | some value => exact hand h
    | none =>
      cases hm : fills.fill mode column.column state with
      | mk made state' =>
        cases made with
        | none =>
          simp only [fillCells, hm] at h ⊢
          simpa [FillRegistry.filled, hm] using ih h
        | some value =>
          cases hw : c.fill column.column value object with
          | error e => simp [fillCells, hm, hw] at h
          | ok written =>
            cases written with
            | none =>
              simp only [fillCells, hm, hw] at h ⊢
              simpa [FillRegistry.filled, hm] using hand h
            | some object' =>
              simp only [fillCells, hm, hw] at h ⊢
              simpa [FillRegistry.filled, hm] using hand h

theorem describe_fillObject_eq_ok {c : Criteria α} {fills : FillRegistry σ} {mode : Mode}
    {object : α} {state : σ} {t : TableDescriptor}
    (h : c.describe (c.fillObject fills mode object state) = .ok t) :
    t = c.table.describe (fills.filled mode (c.cells object) state).1 ∧
      (c.fillObject fills mode object state).state =
        (fills.filled mode (c.cells object) state).2 := by
  rw [describe] at h
  cases hf : (c.fillObject fills mode object state).fields with
  | error e => simp [hf, Except.map] at h
  | ok fields =>
    obtain ⟨hfields, hstate⟩ := fillCells_eq_ok hf
    refine ⟨?_, hstate⟩
    rw [hf] at h
    rw [← Except.ok.inj h, TableMeta.describe, hfields]

end Criteria

end SqlMapper
