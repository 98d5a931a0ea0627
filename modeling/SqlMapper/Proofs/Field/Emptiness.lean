import Mathlib.Logic.Function.Defs
import SqlMapper.Proofs.Field.Equality

/-! When a field counts as empty. Native values are compared with the default of their type and bind
values are looked at by their kind, and both come to the same. An option is empty where its bind
value is null, unless what is in it may be null itself. -/

namespace SqlMapper

theorem Binary.Number.isZero_of_eq {m n : Number} (h : m.eq n = true) (hn : n.isZero = true) :
    m.isZero = true := by
  unfold isZero at hn
  split at hn
  · unfold eq at h
    split at h <;> simp_all [isZero]
  · cases hn

namespace SqlValue

theorem isZero_of_isBlank {v : SqlValue} (h : v.isBlank = true) : v.isZero = true := by
  cases v with
  | null => rfl
  | text s => exact h
  | _ => cases h

theorem isBlank_of_not_isZero {v : SqlValue} (h : v.isZero = false) : v.isBlank = false := by
  rw [← Bool.not_eq_true] at h ⊢
  exact mt isZero_of_isBlank h

end SqlValue

namespace BaseType

theorem isZero_iff_same_default {b : BaseType} (hb : b ≠ .between ∧ b ≠ .any) (v : b.Value) :
    b.isZero v = true ↔ b.Same v b.default := by
  refine ⟨same_default_of_isZero hb, fun h => ?_⟩
  cases b with
  | single => exact Binary.Number.isZero_of_eq h (by decide)
  | double => exact Binary.Number.isZero_of_eq h (by decide)
  | json =>
    cases v with
    | null => rfl
    | _ => cases h
  | between => exact absurd rfl hb.1
  | any => exact absurd rfl hb.2
  | _ =>
    cases h
    rfl

theorem isZero_ofNat64 (n : UInt64) : (ofNat64 n).isZero = (n == 0) := by
  by_cases hn : n.toNat < 0x8000000000000000
  · have hinj : Function.Injective UInt64.toInt64 := fun _ _ h => congrArg Int64.toUInt64 h
    rw [ofNat64, if_pos hn]
    exact hinj.beq_eq (b := 0)
  · have hne : n ≠ 0 := fun h => hn (by simp [h])
    have hdigits : Decimal.ofNat n.toNat ≠ "" := fun h => Nat.toDigits_ne_nil
      ((Decimal.toList_ofNat n.toNat).symm.trans (congrArg String.toList h))
    rw [ofNat64, if_neg hn, beq_eq_false_iff_ne.mpr hne]
    simpa [SqlValue.isZero] using hdigits

theorem isZero_toSql (b : BaseType) (v : b.Value) : (b.toSql v).isZero = b.isZero v := by
  cases b with
  | nat8 =>
    have hinj : Function.Injective fun n : UInt8 => n.toUInt16.toInt16 :=
      fun _ _ h => UInt8.toUInt16_inj.mp (congrArg Int16.toUInt16 h)
    exact hinj.beq_eq (b := 0)
  | nat16 =>
    have hinj : Function.Injective fun n : UInt16 => n.toUInt32.toInt32 :=
      fun _ _ h => UInt16.toUInt32_inj.mp (congrArg Int32.toUInt32 h)
    exact hinj.beq_eq (b := 0)
  | nat32 =>
    have hinj : Function.Injective fun n : UInt32 => n.toUInt64.toInt64 :=
      fun _ _ h => UInt32.toUInt64_inj.mp (congrArg Int64.toUInt64 h)
    exact hinj.beq_eq (b := 0)
  | nat64 => exact isZero_ofNat64 v
  | natSize => exact isZero_ofNat64 v
  | json => cases v <;> rfl
  | _ => rfl

end BaseType

namespace FieldType

theorem isZero_toSql {t : FieldType} (ht : ∀ u, t ≠ .option u) (v : t.Value) :
    (t.toSql v).isZero = t.isZero v := by
  cases t with
  | base b => exact b.isZero_toSql v
  | option u => exact absurd rfl (ht u)
  | list t => cases v <;> rfl

theorem admitsNull_eq_false_iff (t : FieldType) :
    t.admitsNull = false ↔ t ≠ .base .any ∧ ∀ u, t ≠ .option u := by
  cases t <;> simp [admitsNull]

theorem isZero_option_iff_null {t : FieldType} :
    (∀ v : Option t.Value, (option t).isZero v = true ↔ (option t).toSql v = .null) ↔
      t.admitsNull = false := by
  constructor
  · intro h
    by_contra ht
    obtain ⟨v, -, hv⟩ := exists_null_of_admitsNull (Bool.not_eq_false _ ▸ ht)
    cases (h (some v)).mpr hv
  · intro ht v
    cases v with
    | none => exact iff_of_true rfl rfl
    | some v => exact iff_of_false nofun (toSql_ne_null ht v)

end FieldType

end SqlMapper
