import SqlMapper.Binary.Float
import SqlMapper.Binary.Shortest
import SqlMapper.Decimal.Integer

/-! Decimal texts of floating point numbers. They are written with the fewest digits that
read back, either without an exponent at all or, as in JSON, with one where the number is
very large or very small; they are read to the nearest number. -/

namespace SqlMapper.Binary

def signText (negative : Bool) : String :=
  if negative then "-" else ""

/-- Digits with the point after the first `point` of them, zeros filling the gap. -/
def positional (digits : List Char) (point : Int) (whole : String) : String :=
  if point ≤ 0 then
    "0." ++ String.ofList (List.replicate (-point).toNat '0' ++ digits)
  else if point < digits.length then
    String.ofList (digits.take point.toNat) ++ "." ++ String.ofList (digits.drop point.toNat)
  else
    String.ofList (digits ++ List.replicate (point - digits.length).toNat '0') ++ whole

namespace Number

/-- The text without an exponent and without a point where there is no fraction. -/
def toPlain (f : Format) : Number → String
  | .nan => "NaN"
  | .infinite negative => signText negative ++ "inf"
  | .finite negative significand exponent =>
    if significand = 0 then signText negative ++ "0"
    else
      let s := shortest f .up significand exponent
      let digits := Nat.toDigits 10 s.digits
      signText negative ++ positional digits (digits.length + s.exponent) ""

end Number

/-- How numbers are written of which very large and very small ones have an exponent: the
decimal exponents that need none, the digits taken of two that are equally near, and what
stands before an exponent above zero. -/
structure ExponentStyle where
  least : Int
  greatest : Int
  tie : Tie
  plus : String

namespace ExponentStyle

def jsonDouble : ExponentStyle := ⟨-5, 15, .even, "+"⟩

def jsonSingle : ExponentStyle := ⟨-6, 12, .even, "+"⟩

/-- The style of reports, whatever the precision. -/
def report : ExponentStyle := ⟨-4, 15, .up, ""⟩

end ExponentStyle

def Number.toText? (f : Format) (style : ExponentStyle) : Number → Option String
  | .finite negative significand exponent =>
    if significand = 0 then some (signText negative ++ "0.0")
    else
      let s := shortest f style.tie significand exponent
      let digits := Nat.toDigits 10 s.digits
      let leading : Int := digits.length - 1 + s.exponent
      if style.least ≤ leading ∧ leading ≤ style.greatest then
        some (signText negative ++ positional digits (leading + 1) ".0")
      else
        let fraction := if digits.length = 1 then "" else "." ++ String.ofList (digits.drop 1)
        let sign := if leading < 0 then "-" else style.plus
        some (signText negative ++ String.ofList (digits.take 1) ++ fraction ++ "e" ++ sign ++
          Decimal.ofNat leading.natAbs)
  | _ => none

def Single.toPlain (x : Single) : String := x.number.toPlain .single

def Double.toPlain (x : Double) : String := x.number.toPlain .double

def Single.toJsonText? (x : Single) : Option String :=
  x.number.toText? .single .jsonSingle

def Double.toJsonText? (x : Double) : Option String :=
  x.number.toText? .double .jsonDouble

/-- The text in a report, which also numbers without a JSON text have. -/
def Single.toReport (x : Single) : String :=
  (x.number.toText? .single .report).getD x.toPlain

def Double.toReport (x : Double) : String :=
  (x.number.toText? .double .report).getD x.toPlain

/-- A text of digits, of which the last `places` stand after the point, scaled by a power
of ten. -/
structure DecimalText where
  negative : Bool
  digits : List Char
  places : Nat
  exponent : Int

/-- The number of a decimal text in a format, without its sign. A text whose leading digit
is far outside the format's range is cut off before the powers of ten are formed. -/
def DecimalText.toWord (f : Format) (t : DecimalText) : Nat :=
  let digits := t.digits.dropWhile (· == '0')
  let scale := t.exponent - t.places
  if digits.isEmpty then 0
  else if digits.length + scale > 2000 then f.infinity
  else if digits.length + scale < -2000 then 0
  else
    let significand := Nat.ofDigitChars 10 digits 0
    match scale with
    | .ofNat e => roundRatio f (significand * Nat.pow 10 e) 1
    | .negSucc e => roundRatio f significand (Nat.pow 10 (e + 1))

/-- The exponent after an `e`, which needs a digit. -/
def exponent? : List Char → Option Int
  | [] => some 0
  | c :: cs => if c == 'e' || c == 'E' then Decimal.toInt? cs else none

/-- Digits, a point and digits, one digit in all, then perhaps an exponent. -/
def DecimalText.ofUnsigned? (negative : Bool) (cs : List Char) : Option DecimalText :=
  let whole := cs.takeWhile Char.isDigit
  let rest := cs.dropWhile Char.isDigit
  let (fraction, rest) := match rest with
    | '.' :: rest => (rest.takeWhile Char.isDigit, rest.dropWhile Char.isDigit)
    | rest => ([], rest)
  if whole.isEmpty && fraction.isEmpty then none
  else (exponent? rest).map (fun e => ⟨negative, whole ++ fraction, fraction.length, e⟩)

/-- The number of a text without a sign; infinity and results that are not a number have
names, in letters of either case. -/
def unsignedNumber? (f : Format) (negative : Bool) (cs : List Char) : Option Number :=
  let name := cs.map Char.toLower
  if name == "nan".toList then some .nan
  else if name == "inf".toList || name == "infinity".toList then some (.infinite negative)
  else
    (DecimalText.ofUnsigned? negative cs).map fun t =>
      match Number.ofWord f (t.toWord f) with
      | .finite _ m e => .finite negative m e
      | .infinite _ => .infinite negative
      | .nan => .nan

/-- The number a text denotes, with at most one sign in front. -/
def number? (f : Format) : List Char → Option Number
  | '-' :: cs => unsignedNumber? f true cs
  | '+' :: cs => unsignedNumber? f false cs
  | cs => unsignedNumber? f false cs

def Single.ofText? (cs : List Char) : Option Single :=
  (number? .single cs).map Single.ofNumber

def Double.ofText? (cs : List Char) : Option Double :=
  (number? .double cs).map Double.ofNumber

end SqlMapper.Binary
