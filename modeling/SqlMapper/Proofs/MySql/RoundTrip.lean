import SqlMapper.MySql.Bind
import SqlMapper.MySql.Column
import SqlMapper.Proofs.Field.RoundTrip
import SqlMapper.Proofs.Json.RoundTrip
import SqlMapper.Proofs.Text.Utf8
import SqlMapper.Proofs.Uuid

/-! Native values in columns of their own kind. What is sent for a value is taken back as a value of
the same kind or of a plainer one, and either decodes to the native value. -/

namespace SqlMapper

/-- A date that has a form on the server. -/
def Calendar.Date.IsSendable (d : Date) : Prop := 1000 ≤ d.year ∧ d.year ≤ 9999

/-- A time in whole microseconds and in no leap second. -/
def Calendar.Time.IsSendable (t : Time) : Prop := t.nano < 1000000000 ∧ t.nano % 1000 = 0

def Calendar.DateTime.IsSendable (t : DateTime) : Prop := t.date.IsSendable ∧ t.time.IsSendable

/-- A value with whole numbers only that the reader does not find too deep. Its members are in
order, as those of every value are that comes from a text. -/
structure Json.IsSendable (j : Json) : Prop where
  whole : j.isWhole = true
  ordered : j.isOrdered = true
  nesting_le : j.nesting ≤ 127

namespace SqlValue

def IsSendable : SqlValue → Prop
  | .date d => d.IsSendable
  | .time t => t.IsSendable
  | .dateTime t => t.IsSendable
  | .timestamp t => t.utc.IsSendable
  | .json j => j.IsSendable
  | _ => True

/-- The type of the columns that are made for a kind of value. -/
def column? : SqlValue → Option MySql.ColumnType
  | .bool _ | .tinyint _ => some .tiny
  | .smallint _ => some .short
  | .int _ => some .long
  | .bigint _ => some .longLong
  | .float _ => some .float
  | .double _ => some .double
  | .char _ | .text _ | .uuid _ => some .other
  | .json _ => some .json
  | .date _ => some .date
  | .time _ => some .time
  | .dateTime _ => some .dateTime
  | .timestamp _ => some .timestamp
  | .null | .list _ | .between _ _ => none

/-- What such a column gives for the value: kinds that the server does not know become plainer. -/
def received : SqlValue → SqlValue
  | .bool b => .tinyint (if b then 1 else 0)
  | .char c => .text c.toString
  | .uuid u => .text u.toText
  | v => v

end SqlValue

/-- The types of which every value has a column of its kind. -/
def BaseType.hasColumn : BaseType → Bool
  | .nat64 | .natSize | .between | .any => false
  | _ => true

namespace MySql

theorem exists_column {b : BaseType} (hb : b.hasColumn = true) (v : b.Value) :
    ∃ t, (b.toSql v).column? = some t := by
  cases b with
  | nat64 | natSize | between | any => simp [BaseType.hasColumn] at hb
  | _ => exact ⟨_, rfl⟩

theorem toText?_ofText (s : String) : (Wire.ofText s).toText? = some s :=
  Text.ofUtf8?_toUtf8 s

namespace ColumnType

theorem require_int {n : Int64} {val least greatest : Int} {take : Int → SqlValue} {x : SqlValue}
    (hval : n.toInt = val) (h : least ≤ val ∧ val ≤ greatest) (hx : take val = x) :
    require ((Wire.int n).toInteger? least greatest) take = .ok x := by
  subst hval hx
  simp [require, Wire.toInteger?, Option.filter_some, h]

theorem toSql_ofText (s : String) : toSql .other (.ofText s) = .ok (.text s) := by
  have hne : Wire.ofText s ≠ .null := by simp [Wire.ofText]
  rw [toSql, if_neg hne]
  simp only [toAny, toText?_ofText]

theorem toSql_json {j : Json} (h : j.IsSendable) :
    toSql .json (.ofText j.render) = .ok (.json j) := by
  have hne : Wire.ofText j.render ≠ .null := by simp [Wire.ofText]
  have hread := Json.read_render h.whole h.ordered h.nesting_le
  rw [toSql, if_neg hne]
  simp only [toJson, toText?_ofText, hread]

end ColumnType

theorem exists_parts_of_date {t : Calendar.DateTime} (h : t.date.IsSendable) :
    ∃ parts, DateParts.ofDateTime? t = some parts ∧ parts.date? = some t.date ∧
      parts.hour = t.time.hour ∧ parts.minute = t.time.minute ∧ parts.second = t.time.second ∧
      parts.micro = t.time.nano / 1000 := by
  refine ⟨_, if_pos h, ?_, rfl, rfl, rfl, rfl⟩
  have hyear : ((t.date.year.toNat : Nat) : Int) = t.date.year := by
    have := h.1
    omega
  rw [DateParts.date?, hyear, Calendar.Date.ofYmd?, dif_pos t.date.isDay]

theorem ofHms?_micro {t : Calendar.Time} (h : t.IsSendable) :
    Calendar.Time.ofHms? t.hour t.minute t.second (t.nano / 1000 * 1000) = some t := by
  have hnano : t.nano / 1000 * 1000 = t.nano := by
    have := h.2
    omega
  rw [hnano, Calendar.Time.ofHms?, dif_pos ⟨t.isTimeOfDay, .inl h.1⟩]

theorem exists_parts_of_dateTime {t : Calendar.DateTime} (h : t.IsSendable) :
    ∃ parts, DateParts.ofDateTime? t = some parts ∧ parts.dateTime? = some t := by
  obtain ⟨parts, hparts, hdate, hhour, hminute, hsecond, hmicro⟩ := exists_parts_of_date h.1
  refine ⟨parts, hparts, ?_⟩
  rw [DateParts.dateTime?, hdate, hhour, hminute, hsecond, hmicro, ofHms?_micro h.2]
  rfl

theorem exists_received {x : SqlValue} {t : ColumnType} (ht : x.column? = some t)
    (hx : x.IsSendable) : ∃ w, Wire.ofSql? x = some w ∧ t.toSql w = .ok x.received := by
  cases x with
  | null | list | between => simp [SqlValue.column?] at ht
  | bool b =>
    obtain rfl := Option.some.inj ht
    cases b <;> exact ⟨_, rfl, rfl⟩
  | tinyint n =>
    obtain rfl := Option.some.inj ht
    have hl := Int8.le_toInt n
    have hg := Int8.toInt_lt n
    exact ⟨_, rfl, ColumnType.require_int (Int8.toInt_toInt64 n) (by omega)
      (congrArg _ (Int8.ofInt_toInt n))⟩
  | smallint n =>
    obtain rfl := Option.some.inj ht
    have hl := Int16.le_toInt n
    have hg := Int16.toInt_lt n
    exact ⟨_, rfl, ColumnType.require_int (Int16.toInt_toInt64 n) (by omega)
      (congrArg _ (Int16.ofInt_toInt n))⟩
  | int n =>
    obtain rfl := Option.some.inj ht
    have hl := Int32.le_toInt n
    have hg := Int32.toInt_lt n
    exact ⟨_, rfl, ColumnType.require_int (Int32.toInt_toInt64 n) (by omega)
      (congrArg _ (Int32.ofInt_toInt n))⟩
  | bigint n =>
    obtain rfl := Option.some.inj ht
    have hl := Int64.le_toInt n
    have hg := Int64.toInt_lt n
    exact ⟨_, rfl, ColumnType.require_int rfl (by omega) (congrArg _ (Int64.ofInt_toInt n))⟩
  | float x =>
    obtain rfl := Option.some.inj ht
    exact ⟨_, rfl, rfl⟩
  | double x =>
    obtain rfl := Option.some.inj ht
    exact ⟨_, rfl, rfl⟩
  | char c =>
    obtain rfl := Option.some.inj ht
    exact ⟨_, rfl, ColumnType.toSql_ofText c.toString⟩
  | text s =>
    obtain rfl := Option.some.inj ht
    exact ⟨_, rfl, ColumnType.toSql_ofText s⟩
  | uuid u =>
    obtain rfl := Option.some.inj ht
    exact ⟨_, rfl, ColumnType.toSql_ofText u.toText⟩
  | json j =>
    obtain rfl := Option.some.inj ht
    exact ⟨_, rfl, ColumnType.toSql_json hx⟩
  | date d =>
    obtain rfl := Option.some.inj ht
    obtain ⟨parts, hparts, hdate, -⟩ := exists_parts_of_date (t := ⟨d, .midnight⟩) hx
    exact ⟨.date parts, by rw [Wire.ofSql?, hparts]; rfl,
      congrArg (ColumnType.require · SqlValue.date) hdate⟩
  | time t =>
    obtain rfl := Option.some.inj ht
    exact ⟨_, rfl, congrArg (ColumnType.require · SqlValue.time) (ofHms?_micro hx)⟩
  | dateTime t =>
    obtain rfl := Option.some.inj ht
    obtain ⟨parts, hparts, ht⟩ := exists_parts_of_dateTime hx
    exact ⟨.date parts, by rw [Wire.ofSql?, hparts]; rfl,
      congrArg (ColumnType.require · SqlValue.dateTime) ht⟩
  | timestamp t =>
    obtain rfl := Option.some.inj ht
    obtain ⟨parts, hparts, ht⟩ := exists_parts_of_dateTime hx
    exact ⟨.date parts, by rw [Wire.ofSql?, hparts]; rfl,
      congrArg (ColumnType.require · fun t => SqlValue.timestamp ⟨t⟩) ht⟩

theorem ofSql_received {b : BaseType} (hb : b.hasColumn = true) (v : b.Value) :
    b.ofSql (b.toSql v).received = .ok v := by
  cases b with
  | nat64 | natSize | between | any => simp [BaseType.hasColumn] at hb
  | bool => cases v <;> rfl
  | char =>
    have hchar : SqlValue.charOfText? (Char.toString v) = some v := by
      simp [SqlValue.charOfText?, Char.toString]
    change SqlValue.readText "char" (Char.toString v) (SqlValue.charOfText? (Char.toString v)) = _
    rw [hchar]
    rfl
  | uuid =>
    change (Uuid.read (Uuid.toText v)).mapError _ = _
    rw [Uuid.read_toText]
    rfl
  | _ => exact BaseType.ofSql_toSql_eq _ v

/-- A native value that is sent and taken back from a column of its kind decodes to itself, and null
is null in every column. -/
theorem bound_values_come_back :
    (∀ (b : BaseType) (v : b.Value), b.hasColumn = true → (b.toSql v).IsSendable →
      ∃ t w r, (b.toSql v).column? = some t ∧ Wire.ofSql? (b.toSql v) = some w ∧
        t.toSql w = .ok r ∧ b.ofSql r = .ok v) ∧
    ∀ t : ColumnType, ∃ w, Wire.ofSql? .null = some w ∧ t.toSql w = .ok .null := by
  refine ⟨fun b v hb hv => ?_, fun t => ⟨.null, rfl, if_pos rfl⟩⟩
  obtain ⟨t, ht⟩ := exists_column hb v
  obtain ⟨w, hw, hr⟩ := exists_received ht hv
  exact ⟨t, w, (b.toSql v).received, ht, hw, hr, ofSql_received hb v⟩

/-- Two control characters in a row, which are escaped one after the other. -/
theorem bound_values_come_back_document :
    let j : Json :=
      .object [("a\u0001\u001f", .array [.bool true, .ofInt64 (-7)]), ("b", .object [])]
    j.nesting = 2 ∧
    (∃ t w r, (SqlValue.json j).column? = some t ∧ Wire.ofSql? (.json j) = some w ∧
      t.toSql w = .ok r ∧ BaseType.json.ofSql r = .ok j) ∧
    ∃ w, Wire.ofSql? .null = some w ∧ ColumnType.bit.toSql w = .ok .null := by
  intro j
  obtain ⟨hvalues, hnull⟩ := bound_values_come_back
  have hj : j.IsSendable := ⟨by decide, by decide, by decide⟩
  exact ⟨by decide, hvalues .json j rfl hj, hnull .bit⟩

end MySql

end SqlMapper
