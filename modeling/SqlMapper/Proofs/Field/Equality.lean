import Mathlib.Data.Option.Basic
import SqlMapper.Proofs.Field.RoundTrip

/-! Equality of what fields hold. Floating point numbers compare as numbers, wherever they occur,
so that a value equals itself as long as no result that is not a number is in it, and a field that
counts as empty equals the default of its type. -/

namespace SqlMapper

namespace Binary.Number

theorem eq_self {n : Number} (h : n ≠ .nan) : n.eq n = true := by
  cases n with
  | nan => exact absurd rfl h
  | infinite s => simp [eq]
  | finite s m e => cases m <;> simp [eq]

theorem eq_of_isZero {m n : Number} (hm : m.isZero = true) (hn : n.isZero = true) :
    m.eq n = true := by
  unfold isZero at hm hn
  split at hm <;> split at hn <;> simp_all [eq]

end Binary.Number

namespace Json

theorem Number.eq_self (n : Number) : n.eq n = true := by
  cases n with
  | integer n lower upper => simp [eq]
  | double x finite =>
    refine Binary.Number.eq_self fun h => ?_
    simp [h, Binary.Number.isFinite] at finite

mutual

/-- The doubles in JSON are finite, so that every value equals itself. -/
theorem eq_self : (j : Json) → j.eq j = true
  | .null => rfl
  | .bool _ => by simp [eq]
  | .number n => n.eq_self
  | .string _ => by simp [eq]
  | .array items => eqItems_self items
  | .object members => eqMembers_self members

theorem eqItems_self : (items : List Json) → eqItems items items = true
  | [] => rfl
  | x :: xs => by simp [eqItems, eq_self x, eqItems_self xs]

theorem eqMembers_self : (members : List (String × Json)) → eqMembers members members = true
  | [] => rfl
  | (_, x) :: xs => by simp [eqMembers, eq_self x, eqMembers_self xs]

end

end Json

namespace SqlValue

mutual

/-- Whether a result that is not a number is somewhere in a value. -/
def hasNaN : SqlValue → Bool
  | .float x => x.isNaN
  | .double x => x.isNaN
  | .list items => hasNaNItems items
  | .between left right => hasNaN left || hasNaN right
  | _ => false

def hasNaNItems : List SqlValue → Bool
  | [] => false
  | x :: xs => hasNaN x || hasNaNItems xs

end

mutual

theorem eq_self : (v : SqlValue) → v.hasNaN = false → v.eq v = true
  | .float x, h => Binary.Number.eq_self (by simpa [hasNaN, Binary.Single.isNaN] using h)
  | .double x, h => Binary.Number.eq_self (by simpa [hasNaN, Binary.Double.isNaN] using h)
  | .json j, _ => j.eq_self
  | .list items, h => eqItems_self items h
  | .between left right, h => by
    obtain ⟨hl, hr⟩ : left.hasNaN = false ∧ right.hasNaN = false := by simpa [hasNaN] using h
    simp [eq, eq_self left hl, eq_self right hr]
  | .null, _ | .bool _, _ | .tinyint _, _ | .smallint _, _ | .int _, _ | .bigint _, _ | .char _, _
  | .text _, _ | .uuid _, _ | .date _, _ | .time _, _ | .dateTime _, _ | .timestamp _, _ => by
    simp [eq]

theorem eqItems_self : (items : List SqlValue) → hasNaNItems items = false →
    eqItems items items = true
  | [], _ => rfl
  | x :: xs, h => by
    obtain ⟨hx, hxs⟩ : x.hasNaN = false ∧ hasNaNItems xs = false := by
      simpa [hasNaNItems] using h
    simp [eqItems, eq_self x hx, eqItems_self xs hxs]

end

end SqlValue

namespace BaseType

/-- Equality of native values. -/
def Same : (b : BaseType) → b.Value → b.Value → Prop
  | .single, x, y => x.eq y = true
  | .double, x, y => x.eq y = true
  | .json, j, k => j.eq k = true
  | .between, a, b => a.toValue.eq b.toValue = true
  | .any, v, w => v.eq w = true
  | _, v, w => v = w

def FreeOfNaN : (b : BaseType) → b.Value → Prop
  | .single, x => x.isNaN = false
  | .double, x => x.isNaN = false
  | .between, b => b.toValue.hasNaN = false
  | .any, v => v.hasNaN = false
  | _, _ => True

theorem same_self {b : BaseType} {v : b.Value} (h : b.FreeOfNaN v) : b.Same v v := by
  cases b with
  | single => exact Binary.Number.eq_self (by simpa [FreeOfNaN, Binary.Single.isNaN] using h)
  | double => exact Binary.Number.eq_self (by simpa [FreeOfNaN, Binary.Double.isNaN] using h)
  | json => exact Json.eq_self v
  | between => exact SqlValue.eq_self _ h
  | any => exact SqlValue.eq_self v h
  | _ => rfl

/-- Ranges with two blank bounds and values of any kind may be empty without being the default. -/
theorem same_default_of_isZero {b : BaseType} (hb : b ≠ .between ∧ b ≠ .any) {v : b.Value}
    (h : b.isZero v = true) : b.Same v b.default := by
  cases b with
  | single => exact Binary.Number.eq_of_isZero h (by decide)
  | double => exact Binary.Number.eq_of_isZero h (by decide)
  | json =>
    cases v with
    | null => rfl
    | _ => simp [isZero] at h
  | between => exact absurd rfl hb.1
  | any => exact absurd rfl hb.2
  | bool => simpa [isZero, Same, default] using h
  | text => simpa [isZero, Same, default] using h
  | _ => exact eq_of_beq h

end BaseType

namespace FieldType

def Same : (t : FieldType) → t.Value → t.Value → Prop
  | .base b, v, w => b.Same v w
  | .option t, v, w => Option.Rel t.Same v w
  | .list t, vs, ws => List.Forall₂ t.Same vs ws

def FreeOfNaN : (t : FieldType) → t.Value → Prop
  | .base b, v => b.FreeOfNaN v
  | .option t, v => ∀ w ∈ v, t.FreeOfNaN w
  | .list t, vs => ∀ w ∈ vs, t.FreeOfNaN w

theorem same_self {t : FieldType} {v : t.Value} (h : t.FreeOfNaN v) : t.Same v v := by
  induction t with
  | base b => exact BaseType.same_self h
  | option t ih =>
    cases v with
    | none => exact .none
    | some v => exact .some (ih (h v rfl))
  | list t ih => exact List.forall₂_same.mpr fun w hw => ih (h w hw)

theorem same_default_of_isZero {t : FieldType} (ht : t ≠ .base .between ∧ t ≠ .base .any)
    {v : t.Value} (h : t.isZero v = true) : t.Same v t.default := by
  cases t with
  | base b => exact BaseType.same_default_of_isZero ⟨by simpa using ht.1, by simpa using ht.2⟩ h
  | option t =>
    obtain rfl : v = none := Option.isNone_iff_eq_none.mp h
    exact .none
  | list t =>
    obtain rfl : v = [] := List.isEmpty_iff.mp h
    exact .nil

end FieldType

end SqlMapper
