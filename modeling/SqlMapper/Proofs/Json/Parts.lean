import SqlMapper.Json.Basic

/-! The values inside a JSON value, and what is said of all of them. -/

namespace SqlMapper.Json

mutual

/-- Whether something holds of a value and of all values inside it; `opens` tells which objects to
look into. -/
def every (opens : List (String × Json) → Bool) (p : Json → Bool) : Json → Bool
  | .array items => p (.array items) && everyItem opens p items
  | .object members =>
    p (.object members) && (!opens members || everyMember opens p members)
  | j => p j

def everyItem (opens : List (String × Json) → Bool) (p : Json → Bool) : List Json → Bool
  | [] => true
  | x :: xs => every opens p x && everyItem opens p xs

def everyMember (opens : List (String × Json) → Bool) (p : Json → Bool) :
    List (String × Json) → Bool
  | [] => true
  | (_, x) :: xs => every opens p x && everyMember opens p xs

end

/-- Whether every object lists its members in the order of their keys, each key once. -/
def isOrdered (j : Json) : Bool :=
  j.every (fun _ => true) fun
    | .object members => decide ((members.map Prod.fst).Pairwise (· < ·))
    | _ => true

section Every

variable {opens : List (String × Json) → Bool} {p : Json → Bool}

theorem everyItem_iff {items : List Json} :
    everyItem opens p items = true ↔ ∀ x ∈ items, x.every opens p = true := by
  induction items with
  | nil => simp [everyItem]
  | cons x xs ih => simp [everyItem, ih]

theorem everyMember_iff {members : List (String × Json)} :
    everyMember opens p members = true ↔ ∀ m ∈ members, m.2.every opens p = true := by
  induction members with
  | nil => simp [everyMember]
  | cons m ms ih => simp [everyMember, ih]

end Every

theorem isOrdered_array {items : List Json} :
    isOrdered (.array items) = true ↔ ∀ x ∈ items, x.isOrdered = true := by
  simp [isOrdered, every, everyItem_iff]

theorem isOrdered_object {members : List (String × Json)} :
    isOrdered (.object members) = true ↔
      (members.map Prod.fst).Pairwise (· < ·) ∧ ∀ m ∈ members, m.2.isOrdered = true := by
  simp [isOrdered, every, everyMember_iff]

end SqlMapper.Json
