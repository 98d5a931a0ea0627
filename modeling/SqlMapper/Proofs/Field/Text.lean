import SqlMapper.Proofs.Calendar.RoundTrip
import SqlMapper.Proofs.Field.Integers
import SqlMapper.Proofs.Uuid

/-! Native values converted into text and read back from it. Each kind of value has a text of its
own: a word, digits, groups of hexadecimal digits, or the parts of a date. -/

namespace SqlMapper

namespace SqlValue

end SqlValue

namespace BaseType

/-- Whether the value has no leap second within a minute. -/
def IsOnClock : (b : BaseType) → b.Value → Prop
  | .time, t => Calendar.IsOnClock t.second t.nano
  | .dateTime, t => Calendar.IsOnClock t.time.second t.time.nano
  | .timestamp, t => Calendar.IsOnClock t.utc.time.second t.utc.time.nano
  | _, _ => True

/-- The value with the time that clocks show. -/
def onClock : (b : BaseType) → b.Value → b.Value
  | .time, t => Calendar.Time.onClock t
  | .dateTime, t => Calendar.DateTime.onClock t
  | .timestamp, t => Calendar.Timestamp.onClock t
  | _, v => v

theorem onClock_eq_self_iff {b : BaseType} {v : b.Value} : b.onClock v = v ↔ b.IsOnClock v := by
  cases b with
  | time => exact Calendar.Time.onClock_eq_self_iff v
  | dateTime => exact Calendar.DateTime.onClock_eq_self_iff v
  | timestamp => exact Calendar.Timestamp.onClock_eq_self_iff
  | _ => exact iff_of_true rfl trivial

end BaseType

end SqlMapper
