import SqlMapper.Calendar.Time
import SqlMapper.Text.Blank

/-! Dates and times read from text. Free forms allow blanks before each number, fewer
digits than usual and a sign before the year; the form of RFC 3339 is fixed and ends with
an offset, which is taken off. -/

namespace SqlMapper.Calendar

inductive ReadError where
  | tooShort
  | invalid
  | tooLong
  | outOfRange
  deriving DecidableEq, Repr

def ReadError.message : ReadError → String
  | .tooShort => "premature end of input"
  | .invalid => "input contains invalid characters"
  | .tooLong => "trailing input"
  | .outOfRange => "input is out of range"

abbrev Reader (α : Type) := StateT (List Char) (Except ReadError) α

namespace Reader

def fail (e : ReadError) : Reader α := fun _ => .error e

def ofOption : Option α → Except ReadError α
  | some a => .ok a
  | none => .error .outOfRange

/-- A character that must come next. -/
def char (c : Char) : Reader Unit
  | [] => .error .tooShort
  | d :: cs => if d = c then .ok ((), cs) else .error .invalid

def skipBlank : Reader Unit
  | cs => .ok ((), Text.trimStart cs)

/-- A number of at least one digit and at most `width`. -/
def digits (width : Nat) : Reader Nat
  | [] => .error .tooShort
  | cs =>
    let found := (cs.take width).takeWhile Char.isDigit
    if found.isEmpty then .error .invalid
    else .ok (Nat.ofDigitChars 10 found 0, cs.drop found.length)

/-- A number of one or two digits that must lie between two bounds. -/
def bounded (low high : Nat) : Reader Nat := do
  skipBlank
  let n ← digits 2
  if low ≤ n ∧ n ≤ high then pure n else fail .outOfRange

/-- A number of any length that a signed 32-bit word holds. -/
def signedYear (negative : Bool) : Reader Int
  | cs => do
    let (n, rest) ← digits cs.length cs
    let year : Int := if negative then -(n : Int) else n
    if -0x80000000 ≤ year ∧ year < 0x80000000 then .ok (year, rest) else .error .outOfRange

/-- A year of at most four digits, or of any number after a sign. -/
def year : Reader Int
  | cs =>
    match Text.trimStart cs with
    | '-' :: rest => signedYear true rest
    | '+' :: rest => signedYear false rest
    | rest => (digits 4 rest).map fun r => ((r.1 : Int), r.2)

/-- The nanoseconds of the digits after a point; digits past the ninth are dropped. -/
def nanoseconds : Reader Nat
  | cs => do
    let (n, rest) ← digits 9 cs
    let count := cs.length - rest.length
    .ok (n * Nat.pow 10 (9 - count), rest.dropWhile Char.isDigit)

/-- The fraction of a second, if there is one. -/
def fraction : Reader Nat
  | '.' :: cs => nanoseconds cs
  | cs => .ok (0, cs)

/-- What a reader makes of a whole text, of which it must leave nothing. -/
def complete (r : Reader α) (s : String) : Except ReadError α := do
  let (a, rest) ← r s.toList
  if rest.isEmpty then .ok a else .error .tooLong

/-- Year, month and day with hyphens between them, not yet known to be a day. -/
def dateParts : Reader (Int × Nat × Nat) := do
  let y ← year
  char '-'
  let m ← bounded 1 12
  char '-'
  let d ← bounded 1 31
  pure (y, m, d)

def timeParts : Reader (Nat × Nat × Nat × Nat) := do
  let h ← bounded 0 23
  char ':'
  let m ← bounded 0 59
  char ':'
  let s ← bounded 0 60
  let n ← fraction
  pure (h, m, s, n)

/-- A second of 60 is the leap second after the 59th. -/
def timeOf : Nat × Nat × Nat × Nat → Except ReadError Time
  | (hour, minute, second, nano) =>
    if second = 60 then ofOption (Time.ofHms? hour minute 59 (nano + 1000000000))
    else ofOption (Time.ofHms? hour minute second nano)

def dateOf : Int × Nat × Nat → Except ReadError Date
  | (year, month, day) => ofOption (Date.ofYmd? year month day)

/-- A date and a time with what `separator` takes between them. -/
def dateTimeParts (separator : Reader Unit) :
    Reader ((Int × Nat × Nat) × (Nat × Nat × Nat × Nat)) := do
  let date ← dateParts
  separator
  let time ← timeParts
  pure (date, time)

end Reader

def Date.read (s : String) : Except ReadError Date := do
  Reader.dateOf (← Reader.dateParts.complete s)

def Time.read (s : String) : Except ReadError Time := do
  Reader.timeOf (← Reader.timeParts.complete s)

def DateTime.readWith (separator : Reader Unit) (s : String) : Except ReadError DateTime := do
  let (dateParts, timeParts) ← (Reader.dateTimeParts separator).complete s
  let date ← Reader.dateOf dateParts
  let time ← Reader.timeOf timeParts
  .ok ⟨date, time⟩

/-- A date and a time with blanks or nothing between them, or else with a `T`, whose error
is then the one reported. -/
def DateTime.read (s : String) : Except ReadError DateTime :=
  match DateTime.readWith Reader.skipBlank s with
  | .ok t => .ok t
  | .error _ => DateTime.readWith (Reader.char 'T') s

namespace Reader

/-- A number of exactly two digits. -/
def twoDigits : Reader Nat
  | c :: d :: cs =>
    if c.isDigit && d.isDigit then .ok (Nat.ofDigitChars 10 [c, d] 0, cs) else .error .invalid
  | [c] => .error (if c.isDigit then .tooShort else .invalid)
  | [] => .error .tooShort

/-- A number of exactly four digits. -/
def fourDigits : Reader Nat := do
  let high ← twoDigits
  let low ← twoDigits
  pure (high * 100 + low)

def utf8Length (cs : List Char) : Nat :=
  (String.ofList cs).utf8ByteSize

/-- Two digits of an offset; a text of one byte is too short whatever the byte. -/
def offsetDigits : Reader Nat
  | cs => if utf8Length cs < 2 then .error .tooShort else
    match cs with
    | c :: d :: rest =>
      if c.isDigit && d.isDigit then .ok (Nat.ofDigitChars 10 [c, d] 0, rest)
      else .error .invalid
    | _ => .error .invalid

def offsetMinutes (negative : Bool) : Reader Int := do
  let h ← offsetDigits
  char ':'
  let m ← offsetDigits
  let total : Int := h * 60 + m
  if 60 ≤ m then fail .outOfRange else pure (if negative then -total else total)

/-- The offset from universal time in minutes, by letter or by sign, hours and minutes. The
sign may be the mathematical minus. -/
def offset : Reader Int
  | [] => .error .tooShort
  | c :: cs =>
    if c = 'Z' ∨ c = 'z' then .ok (0, cs)
    else if c = '+' then offsetMinutes false cs
    else if c = '-' ∨ c = '\u2212' then offsetMinutes true cs
    else .error .invalid

def dateTimeSeparator : Reader Unit
  | [] => .error .tooShort
  | c :: cs => if c = 'T' ∨ c = 't' ∨ c = ' ' then .ok ((), cs) else .error .invalid

/-- Date, time and offset in the form of RFC 3339. -/
def timestampParts : Reader (DateTime × Int) := do
  let y ← fourDigits
  char '-'
  let m ← twoDigits
  char '-'
  let d ← twoDigits
  let date ← dateOf (y, m, d)
  dateTimeSeparator
  let h ← twoDigits
  char ':'
  let mi ← twoDigits
  char ':'
  let s ← twoDigits
  let n ← fraction
  let time ← timeOf (h, mi, s, n)
  let minutes ← offset
  pure (⟨date, time⟩, minutes)

end Reader

def Timestamp.read (s : String) : Except ReadError Timestamp := do
  if Reader.utf8Length s.toList < 19 then .error .tooShort
  else
    let (t, minutes) ← Reader.timestampParts.complete s
    if -1440 < minutes ∧ minutes < 1440 then
      return ⟨← Reader.ofOption (t.minusMinutes? minutes)⟩
    else .error .outOfRange

end SqlMapper.Calendar
