import SqlMapper.OrderedMap
import SqlMapper.Text.Quoted
import SqlMapper.Value.Basic

/-! Values made for columns that an entity leaves empty. A fill function may keep a state
from call to call, which every use hands on. -/

namespace SqlMapper

inductive Mode where
  | read
  | insert
  | update
  deriving DecidableEq, Repr

abbrev FillFunction (σ : Type) := σ → Option SqlValue × σ

/-- The writes for which a fill function is registered. -/
inductive Trigger where
  | insert
  | update
  | write
  deriving DecidableEq, Repr

def Trigger.includes : Trigger → Mode → Bool
  | .insert, .insert => true
  | .update, .update => true
  | .write, .insert => true
  | .write, .update => true
  | _, _ => false

structure FillRegistry (σ : Type) where
  insert : OrderedMap (FillFunction σ)
  update : OrderedMap (FillFunction σ)

namespace FillRegistry

def empty : FillRegistry σ := ⟨.empty, .empty⟩

def register (r : FillRegistry σ) (trigger : Trigger) (column : String) (f : FillFunction σ) :
    FillRegistry σ where
  insert := if trigger.includes .insert then r.insert.insert column f else r.insert
  update := if trigger.includes .update then r.update.insert column f else r.update

/-- The function for a column. Reading has none. -/
def function? (r : FillRegistry σ) (mode : Mode) (column : String) : Option (FillFunction σ) :=
  match mode with
  | .read => none
  | .insert => r.insert.get? column
  | .update => r.update.get? column

theorem function?_register (r : FillRegistry σ) (trigger : Trigger) (key : String)
    (f : FillFunction σ) (mode : Mode) (column : String) :
    (r.register trigger key f).function? mode column =
      if trigger.includes mode && key == column then some f else r.function? mode column := by
  have hget : ∀ m : OrderedMap (FillFunction σ),
      (m.insert key f).get? column = if key == column then some f else m.get? column := by
    intro m
    rw [OrderedMap.get?_insert]
    by_cases hk : column = key
    · simp [hk]
    · have hk' : ¬key = column := fun h => hk h.symm
      simp [hk, hk']
  cases mode with
  | read => cases trigger <;> rfl
  | insert => cases trigger <;> simp [register, function?, Trigger.includes, hget]
  | update => cases trigger <;> simp [register, function?, Trigger.includes, hget]

def contains (r : FillRegistry σ) (mode : Mode) (column : String) : Bool :=
  (r.function? mode column).isSome

/-- Runs the function for a column, if there is one. A null counts as no value. -/
def fill (r : FillRegistry σ) (mode : Mode) (column : String) (state : σ) :
    Option SqlValue × σ :=
  match r.function? mode column with
  | none => (none, state)
  | some f => ((f state).1.filter fun v => !v.isNull, (f state).2)

/-- The columns of both tables as a developer sees them. -/
def describe (r : FillRegistry σ) : String :=
  "FillRegistry \x7b insert: " ++ Text.quotedList r.insert.keys ++ ", update: " ++
    Text.quotedList r.update.keys ++ " \x7d"

end FillRegistry

end SqlMapper
