import SqlMapper.Field.Decode
import SqlMapper.Proofs.Decimal.Integer
import SqlMapper.Proofs.Outcome

/-! Native values written as bind values and read back. The way back exists for every type in
which no option has content that may be null itself, and it loses nothing but unsigned 64-bit
numbers past the greatest signed one: those are written in digits, and whole numbers are read
from digits as signed ones only. -/

theorem UInt16.toInt_toInt16 {n : UInt16} (h : n.toNat < 0x8000) :
    n.toInt16.toInt = n.toNat := by
  have hn : n.toInt16.toBitVec.toNat = n.toNat := rfl
  exact BitVec.toInt_eq_toNat_of_lt (by omega)

theorem UInt32.toInt_toInt32 {n : UInt32} (h : n.toNat < 0x80000000) :
    n.toInt32.toInt = n.toNat := by
  have hn : n.toInt32.toBitVec.toNat = n.toNat := rfl
  exact BitVec.toInt_eq_toNat_of_lt (by omega)

theorem UInt64.toInt_toInt64 {n : UInt64} (h : n.toNat < 0x8000000000000000) :
    n.toInt64.toInt = n.toNat := by
  have hn : n.toInt64.toBitVec.toNat = n.toNat := rfl
  exact BitVec.toInt_eq_toNat_of_lt (by omega)

theorem UInt8.ofInt_toNat (n : UInt8) : UInt8.ofInt n.toNat = n := by
  rw [UInt8.ofInt, Int.emod_eq_of_lt (Int.natCast_nonneg _) (by exact_mod_cast n.toNat_lt),
    Int.toNat_natCast, UInt8.ofNat_toNat]

theorem UInt16.ofInt_toNat (n : UInt16) : UInt16.ofInt n.toNat = n := by
  rw [UInt16.ofInt, Int.emod_eq_of_lt (Int.natCast_nonneg _) (by exact_mod_cast n.toNat_lt),
    Int.toNat_natCast, UInt16.ofNat_toNat]

theorem UInt32.ofInt_toNat (n : UInt32) : UInt32.ofInt n.toNat = n := by
  rw [UInt32.ofInt, Int.emod_eq_of_lt (Int.natCast_nonneg _) (by exact_mod_cast n.toNat_lt),
    Int.toNat_natCast, UInt32.ofNat_toNat]

theorem UInt64.ofInt_toNat (n : UInt64) : UInt64.ofInt n.toNat = n := by
  rw [UInt64.ofInt, Int.emod_eq_of_lt (Int.natCast_nonneg _) (by exact_mod_cast n.toNat_lt),
    Int.toNat_natCast, UInt64.ofNat_toNat]

namespace SqlMapper

/-- The greatest unsigned number that is a signed one of 64 bits too. -/
def greatestSigned : UInt64 := Int64.maxValue.toUInt64

theorem le_greatestSigned_iff (n : UInt64) :
    n ≤ greatestSigned ↔ n.toNat < 0x8000000000000000 := by
  rw [UInt64.le_iff_toNat_le, show greatestSigned.toNat = 0x7fffffffffffffff from rfl]
  omega

theorem SqlValue.integerOfText_ofNat (target : String) (n : Nat) :
    integerOfText target (Decimal.ofNat n) =
      if n < 0x8000000000000000 then .ok (n : Int)
      else .error (unreadable target (Decimal.ofNat n)) := by
  have hrange : (-0x8000000000000000 ≤ (n : Int) ∧ (n : Int) < 0x8000000000000000) ↔
      n < 0x8000000000000000 := by omega
  rw [integerOfText, Decimal.toList_ofNat, Decimal.trimChars_toDigits, Decimal.toInt?_toDigits]
  exact if_congr hrange rfl rfl

namespace BaseType

/-- The unsigned 64-bit numbers in a value, in order. -/
def words : (b : BaseType) → b.Value → List UInt64
  | .nat64, n | .natSize, n => [n]
  | _, _ => []

/-- A value read back, or the complaint about the first of its words that is no signed number. -/
def readBack (b : BaseType) (words : List UInt64) (v : α) : Except DataError α :=
  match words.find? fun n => !decide (n ≤ greatestSigned) with
  | none => .ok v
  | some n => .error (SqlValue.unreadable b.name (Decimal.ofNat n.toNat))

theorem map_toInteger {b : BaseType} {x : SqlValue} {n least greatest : Int} {f : Int → α} {v : α}
    (hb : b.integerRange? = some (least, greatest)) (hx : x.toInteger b.name = .ok n)
    (hn : least ≤ n ∧ n ≤ greatest) (hf : f n = v) : (b.toInteger x).map f = .ok v := by
  simp [toInteger, hb, SqlValue.toIntegerIn, hx, bind, Except.bind, hn, Except.map, hf]

theorem map_toInteger_ofNat64 {b : BaseType}
    (hb : b.integerRange? = some (0, 0xffffffffffffffff)) (n : UInt64) :
    (b.toInteger (ofNat64 n)).map UInt64.ofInt = b.readBack [n] n := by
  by_cases hn : n ≤ greatestSigned
  · have hlt := (le_greatestSigned_iff n).mp hn
    have hread : b.readBack [n] n = .ok n := by simp [readBack, hn]
    rw [hread, ofNat64, if_pos hlt]
    exact map_toInteger hb (congrArg _ (UInt64.toInt_toInt64 hlt)) (by omega) n.ofInt_toNat
  · have hge : ¬n.toNat < 0x8000000000000000 := fun h => hn ((le_greatestSigned_iff n).mpr h)
    have hread : b.readBack [n] n =
        .error (SqlValue.unreadable b.name (Decimal.ofNat n.toNat)) := by
      simp [readBack, hn]
    rw [hread, ofNat64, if_neg hge, toInteger, hb]
    simp only [SqlValue.toIntegerIn, SqlValue.toInteger, SqlValue.integerOfText_ofNat, if_neg hge]
    rfl

theorem ofSql_toSql_eq (b : BaseType) (v : b.Value) :
    b.ofSql (b.toSql v) = b.readBack (b.words v) v := by
  cases b with
  | int8 =>
    have hl := Int8.le_toInt v
    have hg := Int8.toInt_lt v
    exact map_toInteger rfl rfl (by omega) (Int8.ofInt_toInt v)
  | int16 =>
    have hl := Int16.le_toInt v
    have hg := Int16.toInt_lt v
    exact map_toInteger rfl rfl (by omega) (Int16.ofInt_toInt v)
  | int32 =>
    have hl := Int32.le_toInt v
    have hg := Int32.toInt_lt v
    exact map_toInteger rfl rfl (by omega) (Int32.ofInt_toInt v)
  | int64 =>
    have hl := Int64.le_toInt v
    have hg := Int64.toInt_lt v
    exact map_toInteger rfl rfl (by omega) (Int64.ofInt_toInt v)
  | intSize =>
    have hl := Int64.le_toInt v
    have hg := Int64.toInt_lt v
    exact map_toInteger rfl rfl (by omega) (Int64.ofInt_toInt v)
  | nat8 =>
    have hv := v.toNat_lt
    have hs : v.toUInt16.toInt16.toInt = v.toNat := UInt16.toInt_toInt16 (by simp; omega)
    exact map_toInteger rfl (congrArg _ hs) (by omega) v.ofInt_toNat
  | nat16 =>
    have hv := v.toNat_lt
    have hs : v.toUInt32.toInt32.toInt = v.toNat := UInt32.toInt_toInt32 (by simp; omega)
    exact map_toInteger rfl (congrArg _ hs) (by omega) v.ofInt_toNat
  | nat32 =>
    have hv := v.toNat_lt
    have hs : v.toUInt64.toInt64.toInt = v.toNat := UInt64.toInt_toInt64 (by simp; omega)
    exact map_toInteger rfl (congrArg _ hs) (by omega) v.ofInt_toNat
  | nat64 => exact map_toInteger_ofNat64 rfl v
  | natSize => exact map_toInteger_ofNat64 rfl v
  | _ => rfl

theorem readBack_map (b : BaseType) (words : List UInt64) (v : α) (f : α → β) :
    (b.readBack words v).map f = b.readBack words (f v) := by
  unfold readBack
  split <;> rfl

/-- The first word of a list that cannot be read back is the first one of the first item with such a
word. -/
theorem mapM_readBack (b : BaseType) (words : α → List UInt64) (vs : List α) :
    vs.mapM (fun v => b.readBack (words v) v) = b.readBack (vs.flatMap words) vs := by
  induction vs with
  | nil => rfl
  | cons v vs ih =>
    rw [List.mapM_cons, ih, List.flatMap_cons, readBack, readBack, readBack, List.find?_append]
    cases (words v).find? fun n => !decide (n ≤ greatestSigned) with
    | some n => rfl
    | none => cases (vs.flatMap words).find? fun n => !decide (n ≤ greatestSigned) <;> rfl

theorem readBack_eq_ok_iff {b : BaseType} {words : List UInt64} {v : α} :
    b.readBack words v = .ok v ↔ ∀ n ∈ words, n ≤ greatestSigned := by
  unfold readBack
  split
  · rename_i h
    simpa using h
  · rename_i n h
    have hn : ¬n ≤ greatestSigned := by simpa using List.find?_some h
    simp only [reduceCtorEq, false_iff]
    exact fun hall => hn (hall n (List.mem_of_find?_eq_some h))

end BaseType

namespace FieldType

/-- The base type that options and lists are made over. -/
def core : FieldType → BaseType
  | .base b => b
  | .option t => t.core
  | .list t => t.core

/-- The unsigned 64-bit numbers in a value, in order. -/
def words : (t : FieldType) → t.Value → List UInt64
  | .base b, v => b.words v
  | .option _, none => []
  | .option t, some v => t.words v
  | .list t, vs => vs.flatMap t.words

/-- Whether some value of the type is written as null. -/
def admitsNull : FieldType → Bool
  | .base b => b == .any
  | .option _ => true
  | .list _ => false

/-- Nothing in an option may be null itself, or it could not be told from an empty one. -/
def Unambiguous : FieldType → Prop
  | .base _ => True
  | .option t => t.admitsNull = false ∧ t.Unambiguous
  | .list t => t.Unambiguous

instance decidableUnambiguous : (t : FieldType) → Decidable t.Unambiguous
  | .base _ => inferInstanceAs (Decidable True)
  | .option t =>
    have := decidableUnambiguous t
    inferInstanceAs (Decidable (_ ∧ _))
  | .list t => decidableUnambiguous t

theorem toSql_ne_null {t : FieldType} (ht : t.admitsNull = false) (v : t.Value) :
    t.toSql v ≠ .null := by
  cases t with
  | base b =>
    have hwide : ∀ n, BaseType.ofNat64 n ≠ .null := by
      intro n
      unfold BaseType.ofNat64
      split <;> simp
    cases b with
    | any => simp [admitsNull] at ht
    | nat64 => exact hwide v
    | natSize => exact hwide v
    | _ => simp [toSql, BaseType.toSql, Between.toValue]
  | option t => simp [admitsNull] at ht
  | list t => simp [toSql]

theorem ofSql_option {t : FieldType} {x : SqlValue} (hx : x ≠ .null) :
    (option t).ofSql x = (t.ofSql x).map some := by
  cases x with
  | null => exact absurd rfl hx
  | _ => rfl

theorem ofSql_toSql_eq {t : FieldType} (ht : t.Unambiguous) (v : t.Value) :
    t.ofSql (t.toSql v) = t.core.readBack (t.words v) v := by
  induction t with
  | base b => exact b.ofSql_toSql_eq v
  | option t ih =>
    cases v with
    | none => rfl
    | some v =>
      rw [toSql, ofSql_option (toSql_ne_null ht.1 v), ih ht.2, BaseType.readBack_map, words, core]
  | list t ih =>
    calc (list t).ofSql ((list t).toSql v)
      _ = (v.map t.toSql).mapM t.ofSql := rfl
      _ = v.mapM fun w => t.core.readBack (t.words w) w := by
          rw [List.mapM_map]
          exact congrArg (List.mapM · v) (funext (ih ht))
      _ = t.core.readBack (v.flatMap t.words) v := BaseType.mapM_readBack _ _ _

theorem exists_null_of_admitsNull {t : FieldType} (ht : t.admitsNull = true) :
    ∃ v, t.words v = [] ∧ t.toSql v = .null := by
  cases t with
  | base b =>
    obtain rfl : b = .any := by simpa [admitsNull] using ht
    exact ⟨SqlValue.null, rfl, rfl⟩
  | option t => exact ⟨none, rfl, rfl⟩
  | list t => simp [admitsNull] at ht

theorem exists_lost_of_not_unambiguous {t : FieldType} (ht : ¬t.Unambiguous) :
    ∃ v, t.words v = [] ∧ t.ofSql (t.toSql v) ≠ .ok v := by
  induction t with
  | base b => exact absurd trivial ht
  | option t ih =>
    by_cases hn : t.admitsNull = true
    · obtain ⟨v, hw, hv⟩ := exists_null_of_admitsNull hn
      refine ⟨some v, hw, ?_⟩
      rw [toSql, hv]
      simp [ofSql]
    · have hn' : t.admitsNull = false := by simpa using hn
      obtain ⟨v, hw, hv⟩ := ih fun h => ht ⟨hn', h⟩
      refine ⟨some v, hw, fun h => hv ?_⟩
      rw [toSql, ofSql_option (toSql_ne_null hn' v)] at h
      obtain ⟨w, hread, hsome⟩ := exists_of_map_eq_ok h
      rw [hread, Option.some.inj hsome]
  | list t ih =>
    obtain ⟨v, hw, hv⟩ := ih ht
    refine ⟨[v], by simp [words, hw], fun h => hv ?_⟩
    have hread : List.Forall₂ (fun x w => t.ofSql x = .ok w) [t.toSql v] [v] :=
      forall₂_of_mapM_eq_ok h
    cases hread with
    | cons h _ => exact h

/-- The types whose values all come back from their bind values, numbers too great to be signed
aside, are those without an option of what may be null. -/
theorem unambiguous_iff_ofSql_toSql (t : FieldType) :
    t.Unambiguous ↔
      ∀ v : t.Value, (∀ n ∈ t.words v, n ≤ greatestSigned) → t.ofSql (t.toSql v) = .ok v := by
  constructor
  · intro ht v hv
    rw [ofSql_toSql_eq ht]
    exact BaseType.readBack_eq_ok_iff.mpr hv
  · intro h
    by_contra ht
    obtain ⟨v, hw, hv⟩ := exists_lost_of_not_unambiguous ht
    exact hv (h v (by simp [hw]))

/-- A value comes back if and only if its words are signed numbers. Otherwise the first that is not
one is not read from its digits. -/
theorem ofSql_toSql_words (t : FieldType) (ht : t.Unambiguous) (v : t.Value) :
    (t.ofSql (t.toSql v) = .ok v ↔ ∀ n ∈ t.words v, n ≤ greatestSigned) ∧
      ∀ before n after, t.words v = before ++ n :: after → (∀ m ∈ before, m ≤ greatestSigned) →
        ¬n ≤ greatestSigned →
        t.ofSql (t.toSql v) =
          .error (SqlValue.unreadable t.core.name (Decimal.ofNat n.toNat)) := by
  rw [ofSql_toSql_eq ht]
  refine ⟨BaseType.readBack_eq_ok_iff, fun before n after hw hbefore hn => ?_⟩
  have hfind : (t.words v).find? (fun n => !decide (n ≤ greatestSigned)) = some n := by
    rw [hw, List.find?_append, List.find?_eq_none.mpr (by simpa using hbefore)]
    simp [hn]
  rw [BaseType.readBack, hfind]

theorem ofSql_toSql_words_options :
    let t : FieldType := .list (.option (.base .nat64))
    let v : t.Value := [some 5, none, some 0x8000000000000000, some 0xffffffffffffffff]
    t.Unambiguous ∧
      t.ofSql (t.toSql v) = .error (SqlValue.unreadable "u64" "9223372036854775808") := by
  intro t v
  have ht : t.Unambiguous := by decide
  exact ⟨ht, (ofSql_toSql_words t ht v).2 [5] 0x8000000000000000 [0xffffffffffffffff] rfl
    (List.forall_mem_singleton.mpr (by decide)) (by decide)⟩

/-- The greatest unsigned number is written in its digits, and not read from them. -/
theorem ofSql_toSql_greatest :
    BaseType.nat64.ofSql (BaseType.nat64.toSql 0xffffffffffffffff) ≠ .ok 0xffffffffffffffff := by
  rw [BaseType.ofSql_toSql_eq, Ne, BaseType.readBack_eq_ok_iff]
  intro h
  exact absurd (h 0xffffffffffffffff List.mem_cons_self) (by decide)

end FieldType

end SqlMapper
