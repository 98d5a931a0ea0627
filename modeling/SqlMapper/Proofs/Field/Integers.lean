import Mathlib.Algebra.Order.Ring.Int
import SqlMapper.Proofs.Field.RoundTrip

/-! Bind values converted into whole numbers. A type takes the very number or reports that it has
none such, and a text counts for the number that it denotes once it is trimmed. -/

theorem UInt8.toNat_ofInt {n : Int} (h : 0 ≤ n ∧ n ≤ 0xff) : ((UInt8.ofInt n).toNat : Int) = n := by
  have hn : n.toNat < UInt8.size := by simp only [UInt8.size]; omega
  rw [UInt8.ofInt, Int.emod_eq_of_lt h.1 (by omega), UInt8.toNat_ofNat_of_lt' hn,
    Int.toNat_of_nonneg h.1]

theorem UInt16.toNat_ofInt {n : Int} (h : 0 ≤ n ∧ n ≤ 0xffff) :
    ((UInt16.ofInt n).toNat : Int) = n := by
  have hn : n.toNat < UInt16.size := by simp only [UInt16.size]; omega
  rw [UInt16.ofInt, Int.emod_eq_of_lt h.1 (by omega), UInt16.toNat_ofNat_of_lt' hn,
    Int.toNat_of_nonneg h.1]

theorem UInt32.toNat_ofInt {n : Int} (h : 0 ≤ n ∧ n ≤ 0xffffffff) :
    ((UInt32.ofInt n).toNat : Int) = n := by
  have hn : n.toNat < UInt32.size := by simp only [UInt32.size]; omega
  rw [UInt32.ofInt, Int.emod_eq_of_lt h.1 (by omega), UInt32.toNat_ofNat_of_lt' hn,
    Int.toNat_of_nonneg h.1]

theorem UInt64.toNat_ofInt {n : Int} (h : 0 ≤ n ∧ n ≤ 0xffffffffffffffff) :
    ((UInt64.ofInt n).toNat : Int) = n := by
  have hn : n.toNat < UInt64.size := by simp only [UInt64.size]; omega
  rw [UInt64.ofInt, Int.emod_eq_of_lt h.1 (by omega), UInt64.toNat_ofNat_of_lt' hn,
    Int.toNat_of_nonneg h.1]

namespace SqlMapper

/-- The number that a native value is, for the types of whole numbers. -/
def BaseType.number? : (b : BaseType) → b.Value → Option Int
  | .int8, n => some n.toInt
  | .int16, n => some n.toInt
  | .int32, n => some n.toInt
  | .int64, n | .intSize, n => some n.toInt
  | .nat8, n => some n.toNat
  | .nat16, n => some n.toNat
  | .nat32, n => some n.toNat
  | .nat64, n | .natSize, n => some n.toNat
  | _, _ => none

/-- The number that a bind value is; a truth value is one as well. -/
def SqlValue.number? : SqlValue → Option Int
  | .bool b => some (if b then 1 else 0)
  | .tinyint n => some n.toInt
  | .smallint n => some n.toInt
  | .int n => some n.toInt
  | .bigint n => some n.toInt
  | _ => none

namespace BaseType

/-- What a type makes of a number: the value that is this number, or an overflow if there is
none. -/
inductive Converts (b : BaseType) (n : Int) : Except DataError b.Value → Prop
  | held {x : b.Value} (h : b.number? x = some n) : Converts b n (.ok x)
  | overflows (h : ∀ x, b.number? x ≠ some n) : Converts b n (.error (.numericOverflow b.name))

variable {b : BaseType} {least greatest : Int}

theorem exists_ofInteger (hb : b.integerRange? = some (least, greatest)) :
    ∃ f : Int → b.Value, (∀ v, b.ofSql v = (b.toInteger v).map f) ∧
      ∀ n, least ≤ n ∧ n ≤ greatest → b.number? (f n) = some n := by
  cases b with
  | int8 =>
    cases hb
    exact ⟨_, fun _ => rfl, fun n hn =>
      congrArg some (Int8.toInt_ofInt_of_le (by omega) (by omega))⟩
  | int16 =>
    cases hb
    exact ⟨_, fun _ => rfl, fun n hn =>
      congrArg some (Int16.toInt_ofInt_of_le (by omega) (by omega))⟩
  | int32 =>
    cases hb
    exact ⟨_, fun _ => rfl, fun n hn =>
      congrArg some (Int32.toInt_ofInt_of_le (by omega) (by omega))⟩
  | int64 | intSize =>
    cases hb
    exact ⟨_, fun _ => rfl, fun n hn =>
      congrArg some (Int64.toInt_ofInt_of_le (by omega) (by omega))⟩
  | nat8 =>
    cases hb
    exact ⟨_, fun _ => rfl, fun n hn => congrArg some (UInt8.toNat_ofInt hn)⟩
  | nat16 =>
    cases hb
    exact ⟨_, fun _ => rfl, fun n hn => congrArg some (UInt16.toNat_ofInt hn)⟩
  | nat32 =>
    cases hb
    exact ⟨_, fun _ => rfl, fun n hn => congrArg some (UInt32.toNat_ofInt hn)⟩
  | nat64 | natSize =>
    cases hb
    exact ⟨_, fun _ => rfl, fun n hn => congrArg some (UInt64.toNat_ofInt hn)⟩
  | _ => simp [integerRange?] at hb

theorem mem_range_of_number? (hb : b.integerRange? = some (least, greatest)) {x : b.Value} {n : Int}
    (hx : b.number? x = some n) : least ≤ n ∧ n ≤ greatest := by
  cases b with
  | int8 =>
    cases hb
    cases hx
    have hl := Int8.le_toInt x
    have hg := Int8.toInt_lt x
    omega
  | int16 =>
    cases hb
    cases hx
    have hl := Int16.le_toInt x
    have hg := Int16.toInt_lt x
    omega
  | int32 =>
    cases hb
    cases hx
    have hl := Int32.le_toInt x
    have hg := Int32.toInt_lt x
    omega
  | int64 | intSize =>
    cases hb
    cases hx
    have hl := Int64.le_toInt x
    have hg := Int64.toInt_lt x
    omega
  | nat8 =>
    cases hb
    cases hx
    have hg := UInt8.toNat_lt x
    omega
  | nat16 =>
    cases hb
    cases hx
    have hg := UInt16.toNat_lt x
    omega
  | nat32 =>
    cases hb
    cases hx
    have hg := UInt32.toNat_lt x
    omega
  | nat64 | natSize =>
    cases hb
    cases hx
    have hg := UInt64.toNat_lt x
    omega
  | _ => simp [integerRange?] at hb

theorem toInteger_eq_bind (hb : b.integerRange? = some (least, greatest)) (v : SqlValue) :
    b.toInteger v = (v.toInteger b.name).bind fun n =>
      if least ≤ n ∧ n ≤ greatest then .ok n else .error (.numericOverflow b.name) := by
  rw [toInteger, hb]
  rfl

theorem converts_of_toInteger (hb : b.integerRange? = some (least, greatest)) {v : SqlValue}
    {n : Int} (hv : v.toInteger b.name = .ok n) : b.Converts n (b.ofSql v) := by
  obtain ⟨f, hof, hf⟩ := exists_ofInteger hb
  rw [hof, toInteger_eq_bind hb, hv, bind_ok]
  split
  · rename_i hn
    exact .held (hf n hn)
  · rename_i hn
    exact .overflows fun x hx => hn (mem_range_of_number? hb hx)

theorem ofSql_congr (hb : b.integerRange? = some (least, greatest)) {v w : SqlValue}
    (h : v.toInteger b.name = w.toInteger b.name) : b.ofSql v = b.ofSql w := by
  obtain ⟨f, hof, -⟩ := exists_ofInteger hb
  rw [hof, hof, toInteger_eq_bind hb, toInteger_eq_bind hb, h]

theorem ofSql_eq_error (hb : b.integerRange? = some (least, greatest)) {v : SqlValue}
    {e : DataError} (h : v.toInteger b.name = .error e) : b.ofSql v = .error e := by
  obtain ⟨f, hof, -⟩ := exists_ofInteger hb
  rw [hof, toInteger_eq_bind hb, h]
  rfl

end BaseType

namespace SqlValue

theorem toInteger_of_number? {v : SqlValue} {n : Int} (h : v.number? = some n) (target : String) :
    v.toInteger target = .ok n := by
  cases v with
  | bool | tinyint | smallint | int | bigint => exact congrArg Except.ok (Option.some.inj h)
  | _ => simp [number?] at h

theorem integerOfText_of_denotes {s : String} {n : Int64}
    (h : Decimal.Denotes (Text.trim s).toList n.toInt) (target : String) :
    integerOfText target s = .ok n.toInt := by
  have hl := Int64.le_toInt n
  have hg := Int64.toInt_lt n
  rw [Text.toList_trim, ← Decimal.toInt?_eq_some_iff] at h
  rw [integerOfText, h]
  exact if_pos (by omega)

theorem integerOfText_of_not_denotes {s : String}
    (h : ∀ n : Int64, ¬Decimal.Denotes (Text.trim s).toList n.toInt) (target : String) :
    integerOfText target s = .error (unreadable target s) := by
  rw [integerOfText]
  split
  · rename_i n hn
    refine if_neg fun hrange => h (Int64.ofInt n) ?_
    rw [Int64.toInt_ofInt_of_le (by omega) (by omega), Text.toList_trim,
      ← Decimal.toInt?_eq_some_iff]
    exact hn
  · rfl

theorem denotes_padded (n : Int) {front back : String} (hf : Text.isAllBlank front = true)
    (hb : Text.isAllBlank back = true) :
    Decimal.Denotes (Text.trim (front ++ Decimal.ofInt n ++ back)).toList n := by
  rw [Text.toList_trim, String.toList_append, String.toList_append,
    Text.trimChars_between_blanks (List.all_eq_true.mp hf) (List.all_eq_true.mp hb),
    Decimal.trimChars_ofInt, ← Decimal.toInt?_eq_some_iff]
  exact Decimal.toInt?_ofInt n

end SqlValue

namespace BaseType

variable {b : BaseType}

/-- Conversion into a type of whole numbers keeps the number or fails, and a text gives what its
number gives. -/
theorem ofSql_integer (hb : b.integerRange?.isSome = true) :
    (∀ v n, v.number? = some n → b.Converts n (b.ofSql v)) ∧
    (∀ (n : Int64) (front back : String), Text.isAllBlank front = true →
      Text.isAllBlank back = true →
      b.ofSql (.text (front ++ Decimal.ofInt n.toInt ++ back)) = b.ofSql (.bigint n)) ∧
    (∀ s x, b.ofSql (.text s) = .ok x →
      ∃ n, b.number? x = some n ∧ Decimal.Denotes (Text.trim s).toList n) ∧
    (∀ s, (∀ n : Int64, ¬Decimal.Denotes (Text.trim s).toList n.toInt) →
      b.ofSql (.text s) = .error (.parse (.text s b.name))) ∧
    b.ofSql .null = .error (.nullValue b.name) ∧
    ∀ v, v.number? = none → v ≠ .null → (∀ s, v ≠ .text s) →
      b.ofSql v = .error (.typeMismatch b.name v.typeName) := by
  obtain ⟨⟨least, greatest⟩, hb⟩ := Option.isSome_iff_exists.mp hb
  refine ⟨fun v n hv => converts_of_toInteger hb (SqlValue.toInteger_of_number? hv _),
    fun n front back hf hk => ?_, fun s x hx => ?_, fun s hs => ?_, ofSql_eq_error hb rfl,
    fun v hv hnull htext => ofSql_eq_error hb ?_⟩
  · exact ofSql_congr hb (SqlValue.integerOfText_of_denotes (SqlValue.denotes_padded _ hf hk) _)
  · by_cases hs : ∃ n : Int64, Decimal.Denotes (Text.trim s).toList n.toInt
    · obtain ⟨n, hn⟩ := hs
      have hc := converts_of_toInteger (v := .text s) hb (SqlValue.integerOfText_of_denotes hn _)
      rw [hx] at hc
      cases hc with
      | held h => exact ⟨_, h, hn⟩
    · have herror := ofSql_eq_error (v := .text s) hb
        (SqlValue.integerOfText_of_not_denotes (not_exists.mp hs) _)
      cases hx.symm.trans herror
  · exact ofSql_eq_error hb (SqlValue.integerOfText_of_not_denotes hs _)
  · cases v with
    | null => exact absurd rfl hnull
    | text s => exact absurd rfl (htext s)
    | bool | tinyint | smallint | int | bigint => simp [SqlValue.number?] at hv
    | _ => rfl

/-- The least signed number overflows a byte, but one more than the greatest is no number at all. -/
theorem ofSql_integer_bytes :
    let least := Decimal.ofInt Int64.minValue.toInt
    BaseType.nat8.integerRange?.isSome = true ∧
      (Text.isAllBlank "\t" = true ∧ Text.isAllBlank "\u3000" = true) ∧
      BaseType.nat8.ofSql (.text ("\t" ++ least ++ "\u3000")) = .error (.numericOverflow "u8") ∧
      BaseType.nat8.ofSql (.text "9223372036854775808") =
        .error (.parse (.text "9223372036854775808" "u8")) := by
  intro least
  have hbyte : BaseType.nat8.integerRange?.isSome = true := rfl
  obtain ⟨-, hpadded, -, htext, -, -⟩ := ofSql_integer hbyte
  refine ⟨hbyte, ⟨by decide, by decide⟩, ?_, htext _ fun n hn => ?_⟩
  · exact hpadded Int64.minValue "\t" "\u3000" (by decide) (by decide)
  · rw [← Decimal.toInt?_eq_some_iff] at hn
    have hread : Decimal.toInt? (Text.trim "9223372036854775808").toList =
        some 9223372036854775808 := by decide
    have heq : 9223372036854775808 = n.toInt := Option.some.inj (hread.symm.trans hn)
    have hlt := Int64.toInt_lt n
    omega

end BaseType

end SqlMapper
