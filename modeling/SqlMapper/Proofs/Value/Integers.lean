import SqlMapper.Proofs.Field.Integers
import SqlMapper.Value.Json

/-! Whole numbers of JSON as bind values, wherever in arrays and ranges they stand. The signed ones
are kept, and those past the greatest of them are rounded to doubles. -/

namespace SqlMapper

/-- One step into a value: to an item of a list or to a bound of a range. -/
inductive Place where
  | item (i : Nat)
  | left
  | right

/-- What a path leads to. Objects that are no ranges have no way in. -/
def Json.reach? : List Place → Json → Option Json
  | [], j => some j
  | .item i :: path, .array items => items[i]?.bind (reach? path)
  | .left :: path, .object members =>
    if SqlValue.areBounds members then (members.lookup "start").bind (reach? path) else none
  | .right :: path, .object members =>
    if SqlValue.areBounds members then (members.lookup "end").bind (reach? path) else none
  | _, _ => none

namespace SqlValue

def reach? : List Place → SqlValue → Option SqlValue
  | [], v => some v
  | .item i :: path, .list items => items[i]?.bind (reach? path)
  | .left :: path, .between left _ => reach? path left
  | .right :: path, .between _ right => reach? path right
  | _, _ => none

/-- The bind value of a whole number of 64 bits, signed or unsigned. -/
def ofInteger (n : Int) : SqlValue :=
  if n < 0 then BaseType.int64.toSql (Int64.ofInt n) else BaseType.nat64.toSql (UInt64.ofInt n)

theorem ofJsonItems_eq_map (items : List Json) : ofJsonItems items = items.map ofJson := by
  induction items with
  | nil => rfl
  | cons x xs ih => rw [ofJsonItems, ih, List.map_cons]

theorem boundOf_of_lookup {key : String} {members : List (String × Json)} {x : Json}
    (h : members.lookup key = some x) : boundOf key members = ofJson x := by
  induction members with
  | nil => simp at h
  | cons m ms ih =>
    obtain ⟨k, y⟩ := m
    rw [boundOf]
    by_cases hk : k = key
    · subst hk
      rw [if_pos rfl]
      simpa using congrArg (Option.map ofJson) h
    · rw [if_neg hk]
      rw [List.lookup_cons, beq_eq_false_iff_ne.mpr (Ne.symm hk)] at h
      exact ih h

theorem reach?_ofJson {path : List Place} {j x : Json} (h : j.reach? path = some x) :
    (ofJson j).reach? path = some (ofJson x) := by
  induction path generalizing j with
  | nil => exact congrArg (Option.map ofJson) h
  | cons place path ih =>
    have hbound {key : String} {members : List (String × Json)}
        (hk : (members.lookup key).bind (Json.reach? path) = some x) :
        (boundOf key members).reach? path = some (ofJson x) := by
      obtain ⟨y, hy, hx⟩ := Option.bind_eq_some_iff.mp hk
      rw [boundOf_of_lookup hy, ih hx]
    cases place with
    | item i =>
      cases j with
      | array items =>
        obtain ⟨y, hy, hx⟩ := Option.bind_eq_some_iff.mp h
        rw [ofJson, reach?, ofJsonItems_eq_map, List.getElem?_map, hy]
        exact ih hx
      | _ => simp [Json.reach?] at h
    | left | right =>
      cases j with
      | object members =>
        rw [Json.reach?] at h
        split at h
        · rename_i hb
          rw [ofJson, if_pos hb]
          exact hbound h
        · simp at h
      | _ => simp [Json.reach?] at h

theorem ofInteger_of_lt {n : Int} (hlower : -0x8000000000000000 ≤ n)
    (hn : n < 0x8000000000000000) : ofInteger n = .bigint (Int64.ofInt n) := by
  have hint : (Int64.ofInt n).toInt = n := Int64.toInt_ofInt_of_le hlower hn
  rw [ofInteger]
  split
  · rfl
  · have hnat : ((UInt64.ofInt n).toNat : Int) = n := UInt64.toNat_ofInt (by omega)
    have hlt : (UInt64.ofInt n).toNat < 0x8000000000000000 := by omega
    have hword : (UInt64.ofInt n).toInt64 = Int64.ofInt n := by
      rw [← Int64.toInt_inj, UInt64.toInt_toInt64 hlt, hnat, hint]
    rw [BaseType.toSql, BaseType.ofNat64, if_pos hlt, hword]

theorem ofInteger_of_le {n : Int} (hn : 0x8000000000000000 ≤ n) (hupper : n < 0x10000000000000000) :
    ofInteger n = .text (Decimal.ofInt n) := by
  have hnat : ((UInt64.ofInt n).toNat : Int) = n := UInt64.toNat_ofInt (by omega)
  have htext : Decimal.ofInt n = Decimal.ofNat (UInt64.ofInt n).toNat :=
    congrArg Decimal.ofInt hnat.symm
  rw [ofInteger, if_neg (by omega), BaseType.toSql, BaseType.ofNat64, if_neg (by omega), htext]

/-- A whole number comes as it is bound if and only if it is a signed one. Otherwise it comes as the
nearest double. -/
theorem ofJson_integer {j : Json} {path : List Place} {n : Int} {lower upper}
    (h : j.reach? path = some (.number (.integer n lower upper))) :
    ((ofJson j).reach? path = some (ofInteger n) ↔ n < 0x8000000000000000) ∧
      (0x8000000000000000 ≤ n →
        (ofJson j).reach? path = some (.double (Binary.Double.ofInt n))) := by
  have hread := reach?_ofJson h
  by_cases hn : n < 0x8000000000000000
  · have hkept : ofJson (.number (.integer n lower upper)) = ofInteger n := by
      rw [ofInteger_of_lt lower hn, ofJson, ofJsonNumber, Json.Number.toInt64?, if_pos hn]
    rw [hread, hkept]
    exact ⟨iff_of_true rfl hn, fun hge => absurd hn (Int.not_lt.mpr hge)⟩
  · have hlost : ofJson (.number (.integer n lower upper)) = .double (Binary.Double.ofInt n) := by
      rw [ofJson, ofJsonNumber, Json.Number.toInt64?, if_neg hn, Json.Number.toDouble]
    rw [hread, hlost, ofInteger_of_le (Int.not_lt.mp hn) upper]
    exact ⟨iff_of_false (by simp) hn, fun _ => rfl⟩

/-- One bound keeps the greatest signed number in a list, the other one loses the next number. -/
theorem ofJson_integer_range :
    let kept : Json := .number (.integer 0x7fffffffffffffff (by decide) (by decide))
    let lost : Json := .number (.integer 0x8000000000000000 (by decide) (by decide))
    let j : Json := .object [("end", lost), ("start", .array [.null, kept])]
    (j.reach? [.left, .item 1] = some kept ∧ j.reach? [.right] = some lost) ∧
      (ofJson j).reach? [.left, .item 1] = some (ofInteger 0x7fffffffffffffff) ∧
      (ofJson j).reach? [.right] = some (.double (Binary.Double.ofInt 0x8000000000000000)) := by
  intro kept lost j
  have hkept : j.reach? [.left, .item 1] = some kept := rfl
  have hlost : j.reach? [.right] = some lost := rfl
  exact ⟨⟨hkept, hlost⟩, (ofJson_integer hkept).1.mpr (by decide),
    (ofJson_integer hlost).2 (by decide)⟩

/-- The greatest unsigned number is not read as it is bound, and no longer told from its
predecessor. -/
theorem ofJson_greatest :
    let greatest : Json := .number (.integer 0xffffffffffffffff (by decide) (by decide))
    let previous : Json := .number (.integer 0xfffffffffffffffe (by decide) (by decide))
    ofJson greatest ≠ BaseType.nat64.toSql 0xffffffffffffffff ∧
      ofJson greatest = ofJson previous := by
  intro greatest previous
  have hsame : Binary.Double.ofInt 0xffffffffffffffff =
      Binary.Double.ofInt 0xfffffffffffffffe := by decide +kernel
  refine ⟨?_, congrArg SqlValue.double hsame⟩
  change SqlValue.double (Binary.Double.ofInt 0xffffffffffffffff) ≠ .text _
  exact nofun

end SqlValue

end SqlMapper
