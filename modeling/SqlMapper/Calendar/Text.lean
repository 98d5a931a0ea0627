import SqlMapper.Calendar.Time
import SqlMapper.Decimal.Integer

/-! Dates and times as text, largest part first. A year outside 0 to 9999 has a sign, and
a fraction of a second has no digits, three, six or nine. -/

namespace SqlMapper.Calendar

def yearText (year : Int) : String :=
  if 0 ≤ year ∧ year ≤ 9999 then Decimal.padded 4 year.natAbs
  else (if year < 0 then "-" else "+") ++ Decimal.padded 4 year.natAbs

def fractionText (nano : Nat) : String :=
  if nano = 0 then ""
  else if nano % 1000000 = 0 then "." ++ Decimal.padded 3 (nano / 1000000)
  else if nano % 1000 = 0 then "." ++ Decimal.padded 6 (nano / 1000)
  else "." ++ Decimal.padded 9 nano

def Date.toText (d : Date) : String :=
  yearText d.year ++ "-" ++ Decimal.padded 2 d.month ++ "-" ++ Decimal.padded 2 d.day

def Time.toText (t : Time) : String :=
  Decimal.padded 2 t.hour ++ ":" ++ Decimal.padded 2 t.minute ++ ":" ++
    Decimal.padded 2 t.shownSecond.1 ++ fractionText t.shownSecond.2

def DateTime.toText (t : DateTime) : String :=
  t.date.toText ++ " " ++ t.time.toText

/-- Date and time with a `T` between them. -/
def DateTime.toIsoText (t : DateTime) : String :=
  t.date.toText ++ "T" ++ t.time.toText

/-- The form of RFC 3339 with the offset in figures. -/
def Timestamp.toOffsetText (t : Timestamp) : String :=
  t.utc.toIsoText ++ "+00:00"

/-- The form of RFC 3339 with the offset as a letter. -/
def Timestamp.toZuluText (t : Timestamp) : String :=
  t.utc.toIsoText ++ "Z"

end SqlMapper.Calendar
