import SqlMapper.Decimal.Integer
import SqlMapper.Json.Reader
import SqlMapper.Text.Utf8

/-! Why a text is no JSON value: the first thing wrong with it, and the line and the column
where it shows. Columns count bytes, and a place is given by the bytes that follow it until
it is known where the lines begin. -/

namespace SqlMapper.Json

inductive SyntaxCause where
  | endInList
  | endInObject
  | endInString
  | endInValue
  | colon
  | listSeparator
  | objectSeparator
  | word
  | value
  | escape
  | number
  | range
  | control
  | key
  | loneHalf
  | trailingComma
  | trailingText
  | missingHalf
  | depth
  deriving DecidableEq, Repr

def SyntaxCause.message : SyntaxCause → String
  | .endInList => "EOF while parsing a list"
  | .endInObject => "EOF while parsing an object"
  | .endInString => "EOF while parsing a string"
  | .endInValue => "EOF while parsing a value"
  | .colon => "expected \x60:\x60"
  | .listSeparator => "expected \x60,\x60 or \x60]\x60"
  | .objectSeparator => "expected \x60,\x60 or \x60\x7d\x60"
  | .word => "expected ident"
  | .value => "expected value"
  | .escape => "invalid escape"
  | .number => "invalid number"
  | .range => "number out of range"
  | .control => "control character (\\u0000-\\u001F) found while parsing a string"
  | .key => "key must be a string"
  | .loneHalf => "lone leading surrogate in hex escape"
  | .trailingComma => "trailing comma"
  | .trailingText => "trailing characters"
  | .missingHalf => "unexpected end of hex escape"
  | .depth => "recursion limit exceeded"

structure SyntaxError where
  cause : SyntaxCause
  line : Nat
  column : Nat
  deriving DecidableEq, Repr

def SyntaxError.message (e : SyntaxError) : String :=
  e.cause.message ++ " at line " ++ Decimal.ofNat e.line ++ " column " ++ Decimal.ofNat e.column

/-- A fault, and how many bytes follow the place where it shows. -/
structure Fault where
  cause : SyntaxCause
  following : Nat
  deriving DecidableEq, Repr

namespace Fault

/-- What follows a part of a text that has no fault. -/
abbrev Scan := Except Fault (List Char)

def before (cause : SyntaxCause) (cs : List Char) : Except Fault α :=
  .error ⟨cause, cs.length⟩

/-- A fault of the first byte of the given text, or of its end. -/
def on (cause : SyntaxCause) (cs : List Char) : Except Fault α :=
  .error ⟨cause, cs.length - 1⟩

def word : List Char → List Char → Scan
  | [], cs => .ok cs
  | _ :: _, [] => before .endInValue []
  | w :: ws, c :: cs => if c = w then word ws cs else before .word cs

/-- How many digits it takes until an exponent exceeds a 32-bit word. -/
def exponentSpan (value : Nat) : List Char → Nat
  | [] => 0
  | c :: cs =>
    let next := value * 10 + (c.toNat - 48)
    if next < 0x80000000 then exponentSpan next cs + 1 else 1

def exponent (n : Numeral) (negative : Bool) (cs : List Char) : Scan :=
  match cs with
  | [] => before .endInValue []
  | c :: rest =>
    if !c.isDigit then before .number rest
    else
      let (digits, rest) := Source.spanDigits cs
      if ({ n with exponent := some (negative, digits) } : Numeral).toNumber?.isSome then .ok rest
      else before .range (cs.drop (exponentSpan 0 digits))

/-- What may follow the digits of a number. -/
def numberEnd (n : Numeral) (cs : List Char) : Scan :=
  match cs with
  | 'e' :: '-' :: rest => exponent n true rest
  | 'e' :: '+' :: rest => exponent n false rest
  | 'e' :: rest => exponent n false rest
  | 'E' :: '-' :: rest => exponent n true rest
  | 'E' :: '+' :: rest => exponent n false rest
  | 'E' :: rest => exponent n false rest
  | _ => if n.toNumber?.isSome then .ok cs else before .range cs

def number (negative : Bool) (cs : List Char) : Scan :=
  let (whole, rest) := Source.spanDigits cs
  match whole, rest with
  | [], [] => before .endInValue []
  | [], _ :: rest => before .number rest
  | '0' :: _ :: _, _ => on .number (cs.drop 1)
  | _, '.' :: rest =>
    match Source.spanDigits rest with
    | ([], []) => on .endInValue []
    | ([], rest) => on .number rest
    | (digits, rest) => numberEnd ⟨negative, whole, some digits, none⟩ rest
  | _, rest => numberEnd ⟨negative, whole, none, none⟩ rest

def hex4 : List Char → Except Fault (Nat × List Char)
  | a :: b :: c :: d :: rest =>
    match Source.hex4? a b c d with
    | some n => .ok (n, rest)
    | none => before .escape rest
  | _ => before .endInString []

/-- The second half of a pair, as an escape of its own. -/
def secondHalf : List Char → Scan
  | [] => before .endInString []
  | '\\' :: [] => before .endInString []
  | '\\' :: 'u' :: rest =>
    match hex4 rest with
    | .error e => .error e
    | .ok (n, rest) => if Source.isLowHalf n then .ok rest else before .loneHalf rest
  | '\\' :: _ :: rest => before .missingHalf rest
  | _ :: rest => before .missingHalf rest

def escape : List Char → Scan
  | [] => before .endInString []
  | 'u' :: rest =>
    match hex4 rest with
    | .error e => .error e
    | .ok (n, rest) =>
      if Source.isLowHalf n then before .loneHalf rest
      else if Source.isHighHalf n then secondHalf rest
      else .ok rest
  | c :: rest => if (Source.simpleEscape? c).isSome then .ok rest else before .escape rest

/-- A string after its opening quote; `fuel` bounds its length. -/
def string : Nat → List Char → Scan
  | 0, cs => .ok cs
  | _, [] => before .endInString []
  | _, '"' :: cs => .ok cs
  | fuel + 1, '\\' :: cs =>
    match escape cs with
    | .error e => .error e
    | .ok rest => string fuel rest
  | fuel + 1, c :: cs => if c.toNat < 32 then before .control cs else string fuel cs

def key (cs : List Char) : Scan :=
  match string (cs.length + 1) cs with
  | .error e => .error e
  | .ok rest =>
    match Source.skipSpace rest with
    | ':' :: rest => .ok rest
    | [] => on .endInObject []
    | rest => on .colon rest

mutual

/-- One value; `fuel` bounds its parts, and containers may still nest `depth` deep. -/
def value : Nat → Nat → List Char → Scan
  | 0, _, cs => .ok cs
  | fuel + 1, depth, cs =>
    match Source.skipSpace cs with
    | [] => on .endInValue []
    | 'n' :: rest => word "ull".toList rest
    | 't' :: rest => word "rue".toList rest
    | 'f' :: rest => word "alse".toList rest
    | '-' :: rest => number true rest
    | '"' :: rest => string (rest.length + 1) rest
    | '[' :: rest =>
      match depth with
      | 0 => on .depth ('[' :: rest)
      | depth + 1 => items fuel depth true rest
    | '{' :: rest =>
      match depth with
      | 0 => on .depth ('{' :: rest)
      | depth + 1 => members fuel depth true rest
    | c :: rest => if c.isDigit then number false (c :: rest) else on .value (c :: rest)

/-- The items of an array from the first one, or from the comma or bracket after one. -/
def items : Nat → Nat → Bool → List Char → Scan
  | 0, _, _, cs => .ok cs
  | fuel + 1, depth, first, cs =>
    match first, Source.skipSpace cs with
    | _, [] => on .endInList []
    | _, ']' :: rest => .ok rest
    | true, rest => itemThen fuel depth rest
    | false, ',' :: rest =>
      match Source.skipSpace rest with
      | [] => on .endInValue []
      | ']' :: rest => on .trailingComma (']' :: rest)
      | rest => itemThen fuel depth rest
    | false, rest => on .listSeparator rest

def itemThen : Nat → Nat → List Char → Scan
  | 0, _, cs => .ok cs
  | fuel + 1, depth, cs =>
    match value fuel depth cs with
    | .error e => .error e
    | .ok rest => items fuel depth false rest

/-- The members of an object from the first one, or from the comma or brace after one. -/
def members : Nat → Nat → Bool → List Char → Scan
  | 0, _, _, cs => .ok cs
  | fuel + 1, depth, first, cs =>
    match first, Source.skipSpace cs with
    | _, [] => on .endInObject []
    | _, '}' :: rest => .ok rest
    | true, '"' :: rest => memberThen fuel depth rest
    | true, rest => on .key rest
    | false, ',' :: rest =>
      match Source.skipSpace rest with
      | [] => on .endInValue []
      | '"' :: rest => memberThen fuel depth rest
      | '}' :: rest => on .trailingComma ('}' :: rest)
      | rest => on .key rest
    | false, rest => on .objectSeparator rest

def memberThen : Nat → Nat → List Char → Scan
  | 0, _, cs => .ok cs
  | fuel + 1, depth, cs =>
    match key cs with
    | .error e => .error e
    | .ok rest =>
      match value fuel depth rest with
      | .error e => .error e
      | .ok rest => members fuel depth false rest

end

/-- The first fault of a whole text, given by its bytes. -/
def find? (cs : List Char) : Option Fault :=
  match value (3 * cs.length + 3) nestingLimit cs with
  | .error e => some e
  | .ok rest =>
    match Source.skipSpace rest with
    | [] => none
    | rest => some ⟨.trailingText, rest.length - 1⟩

/-- The line and column of a fault in a text, given by its bytes. -/
def locate (cs : List Char) (f : Fault) : SyntaxError :=
  let passed := cs.take (cs.length - f.following)
  ⟨f.cause, passed.count '\n' + 1, (passed.reverse.takeWhile (· != '\n')).length⟩

end Fault

def read (s : String) : Except SyntaxError Json :=
  match ofText? s with
  | some j => .ok j
  | none =>
    let cs := Text.byteChars (Text.toUtf8 s)
    .error (((Fault.find? cs).getD ⟨.value, cs.length⟩).locate cs)

end SqlMapper.Json
