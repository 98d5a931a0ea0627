import SqlMapper.Calendar.Time
import SqlMapper.Binary.Decimal
import SqlMapper.Decimal.Integer
import SqlMapper.Text.Utf8

/-! Values as the server sends and takes them, and the native values that they stand for. -/

namespace SqlMapper.MySql

/-- A day with a time to the microsecond, whether or not there is such a day. -/
structure DateParts where
  year : Nat
  month : Nat
  day : Nat
  hour : Nat
  minute : Nat
  second : Nat
  micro : Nat
  deriving DecidableEq, Repr

/-- A signed span of days, hours and less. -/
structure TimeParts where
  negative : Bool
  days : Nat
  hour : Nat
  minute : Nat
  second : Nat
  micro : Nat
  deriving DecidableEq, Repr

inductive Wire where
  | null
  | bytes (bytes : List UInt8)
  | int (n : Int64)
  | uint (n : UInt64)
  | float (x : Binary.Single)
  | double (x : Binary.Double)
  | date (parts : DateParts)
  | time (parts : TimeParts)
  deriving DecidableEq

/-- The date of the parts, which need not hold a time of day. -/
def DateParts.date? (p : DateParts) : Option Calendar.Date :=
  Calendar.Date.ofYmd? p.year p.month p.day

def DateParts.dateTime? (p : DateParts) : Option Calendar.DateTime := do
  return ⟨← p.date?, ← Calendar.Time.ofHms? p.hour p.minute p.second (p.micro * 1000)⟩

/-- The time of day of the parts; a negative span and one of whole days have none. -/
def TimeParts.time? (p : TimeParts) : Option Calendar.Time :=
  if p.negative ∨ p.days ≠ 0 then none
  else Calendar.Time.ofHms? p.hour p.minute p.second (p.micro * 1000)

namespace Layout

def number? (width : Nat) (cs : List Char) : Option (Nat × List Char) :=
  let front := cs.take width
  if front.length = width then
    (Decimal.toNat? front).map fun n => (n, cs.drop width)
  else none

def mark? (c : Char) : List Char → Option (List Char)
  | d :: cs => if d = c then some cs else none
  | [] => none

/-- The microseconds of a fraction of at most six digits; no fraction is none of them. -/
def fraction? : List Char → Option Nat
  | [] => some 0
  | '.' :: cs =>
    if cs.length ≤ 6 then (Decimal.toNat? cs).map (· * Nat.pow 10 (6 - cs.length)) else none
  | _ => none

/-- Hours, minutes, seconds and microseconds of `HH:MM:SS` with an optional fraction. -/
def clock? (cs : List Char) : Option (Nat × Nat × Nat × Nat) := do
  let (hour, cs) ← number? 2 cs
  let (minute, cs) ← number? 2 (← mark? ':' cs)
  let (second, cs) ← number? 2 (← mark? ':' cs)
  return (hour, minute, second, ← fraction? cs)

/-- The parts of `YYYY-MM-DD`, perhaps with a time after a space. -/
def date? (cs : List Char) : Option DateParts := do
  let (year, cs) ← number? 4 cs
  let (month, cs) ← number? 2 (← mark? '-' cs)
  let (day, cs) ← number? 2 (← mark? '-' cs)
  if cs.isEmpty then return ⟨year, month, day, 0, 0, 0, 0⟩
  let (hour, minute, second, micro) ← clock? (← mark? ' ' cs)
  return ⟨year, month, day, hour, minute, second, micro⟩

/-- The parts of a time of day; minutes and seconds stay below 60. -/
def time? (cs : List Char) : Option TimeParts := do
  let (hour, minute, second, micro) ← clock? cs
  if minute < 60 ∧ second < 60 then return ⟨false, 0, hour, minute, second, micro⟩ else none

end Layout

namespace Wire

def toInteger? (least greatest : Int) (w : Wire) : Option Int :=
  let found :=
    match w with
    | .int n => some n.toInt
    | .uint n => some (n.toNat : Int)
    | .bytes bs => Decimal.toInt? (Text.byteChars bs)
    | _ => none
  found.filter fun n => least ≤ n ∧ n ≤ greatest

def toText? : Wire → Option String
  | .bytes bs => Text.ofUtf8? bs
  | _ => none

def toBytes? : Wire → Option (List UInt8)
  | .bytes bs => some bs
  | _ => none

def toSingle? : Wire → Option Binary.Single
  | .float x => some x
  | .bytes bs => (Text.ofUtf8? bs).bind fun s => Binary.Single.ofText? s.toList
  | _ => none

def toDouble? : Wire → Option Binary.Double
  | .float x => some x.toDouble
  | .double x => some x
  | .bytes bs => (Text.ofUtf8? bs).bind fun s => Binary.Double.ofText? s.toList
  | _ => none

def dateParts? : Wire → Option DateParts
  | .date parts => some parts
  | .bytes bs => Layout.date? (Text.byteChars bs)
  | _ => none

def toDate? (w : Wire) : Option Calendar.Date :=
  w.dateParts?.bind DateParts.date?

def toDateTime? (w : Wire) : Option Calendar.DateTime :=
  w.dateParts?.bind DateParts.dateTime?

def toTime? : Wire → Option Calendar.Time
  | .time parts => parts.time?
  | .bytes bs => (Layout.time? (Text.byteChars bs)).bind TimeParts.time?
  | _ => none

end Wire

end SqlMapper.MySql
