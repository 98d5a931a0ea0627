import SqlMapper.Calendar.Date

/-! Times of day to the nanosecond, and days with a time. Inside a leap second a time still has the
second before it, with a thousand million nanoseconds more. -/

namespace SqlMapper.Calendar

/-- Whether the parts name a time of day. Any second may run on into a leap second. -/
def IsTimeOfDay (hour minute second nano : Nat) : Prop :=
  hour < 24 ∧ minute < 60 ∧ second < 60 ∧ nano < 2000000000

instance (hour minute second nano : Nat) : Decidable (IsTimeOfDay hour minute second nano) :=
  inferInstanceAs (Decidable (_ ∧ _))

/-- Whether clocks show the second, which they do of a leap second only at the end of a minute. -/
def IsOnClock (second nano : Nat) : Prop := nano < 1000000000 ∨ second = 59

instance (second nano : Nat) : Decidable (IsOnClock second nano) :=
  inferInstanceAs (Decidable (_ ∨ _))

structure Time where
  hour : Nat
  minute : Nat
  second : Nat
  nano : Nat
  isTimeOfDay : IsTimeOfDay hour minute second nano
  deriving DecidableEq

namespace Time

/-- The time of these parts, if clocks show it. -/
def ofHms? (hour minute second nano : Nat) : Option Time :=
  if h : IsTimeOfDay hour minute second nano ∧ IsOnClock second nano then
    some ⟨hour, minute, second, nano, h.1⟩
  else none

def midnight : Time := ⟨0, 0, 0, 0, by decide⟩

def shownSecond (t : Time) : Nat × Nat :=
  if 1000000000 ≤ t.nano then (t.second + 1, t.nano - 1000000000) else (t.second, t.nano)

/-- The same second in another minute, counted from midnight. -/
def atMinute (t : Time) (n : Nat) : Time where
  hour := n / 60 % 24
  minute := n % 60
  second := t.second
  nano := t.nano
  isTimeOfDay :=
    ⟨Nat.mod_lt _ (by decide), Nat.mod_lt _ (by decide), t.isTimeOfDay.2.2⟩

end Time

/-- A day and a time of day, in no particular zone. -/
structure DateTime where
  date : Date
  time : Time
  deriving DecidableEq

namespace DateTime

def epoch : DateTime := ⟨.epoch, .midnight⟩

/-- The day and time `minutes` earlier, for less than a day either way. -/
def minusMinutes? (t : DateTime) (minutes : Int) : Option DateTime :=
  let total : Int := t.time.hour * 60 + t.time.minute - minutes
  let date? :=
    if total < 0 then t.date.previous?
    else if 1440 ≤ total then t.date.next?
    else some t.date
  date?.map fun date => ⟨date, t.time.atMinute (total % 1440).toNat⟩

end DateTime

/-- A moment, as the day and time it has in universal time. -/
structure Timestamp where
  utc : DateTime
  deriving DecidableEq

def Timestamp.epoch : Timestamp := ⟨.epoch⟩

end SqlMapper.Calendar
