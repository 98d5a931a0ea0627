import SqlMapper.Calendar.Time
import SqlMapper.Interchange.Basic

/-! Days and times by their numbers, the largest unit first. -/

namespace SqlMapper

namespace Calendar

def Date.parts (d : Date) : List Int := [d.year, d.month, d.day]

def Time.parts (t : Time) : List Int := [t.hour, t.minute, t.second, t.nano]

/-- A number of a unit, which is never negative. -/
def unit? (n : Int) : Option Nat :=
  if 0 ≤ n then some n.toNat else none

def Date.ofParts? (year month day : Int) : Option Date := do
  Date.ofYmd? year (← unit? month) (← unit? day)

def Time.ofParts? (hour minute second nano : Int) : Option Time := do
  Time.ofHms? (← unit? hour) (← unit? minute) (← unit? second) (← unit? nano)

end Calendar

instance : Decode Calendar.Date where
  decode? j := do
    match ← (decode? j : Option (List Int)) with
    | [year, month, day] => Calendar.Date.ofParts? year month day
    | _ => none

instance : Encode Calendar.Date := ⟨fun d => encode d.parts⟩

instance : Decode Calendar.Time where
  decode? j := do
    match ← (decode? j : Option (List Int)) with
    | [hour, minute, second, nano] => Calendar.Time.ofParts? hour minute second nano
    | _ => none

instance : Encode Calendar.Time := ⟨fun t => encode t.parts⟩

instance : Decode Calendar.DateTime where
  decode? j := do
    match ← (decode? j : Option (List Int)) with
    | [year, month, day, hour, minute, second, nano] =>
      some ⟨← Calendar.Date.ofParts? year month day,
        ← Calendar.Time.ofParts? hour minute second nano⟩
    | _ => none

instance : Encode Calendar.DateTime := ⟨fun t => encode (t.date.parts ++ t.time.parts)⟩

instance : Decode Calendar.Timestamp := ⟨fun j => (decode? j).map .mk⟩

instance : Encode Calendar.Timestamp := ⟨fun t => encode t.utc⟩

end SqlMapper
