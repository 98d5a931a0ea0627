/-! Bytes read as UTF-8, either strictly or with a replacement character for every maximal
run that begins a character without finishing it. -/

namespace SqlMapper.Text

/-- How many bytes must follow a leading byte, and the range of the first of them. -/
def followers? (b : Nat) : Option (Nat × Nat × Nat) :=
  if 0xc2 ≤ b ∧ b ≤ 0xdf then some (1, 0x80, 0xbf)
  else if b = 0xe0 then some (2, 0xa0, 0xbf)
  else if b = 0xed then some (2, 0x80, 0x9f)
  else if 0xe1 ≤ b ∧ b ≤ 0xef then some (2, 0x80, 0xbf)
  else if b = 0xf0 then some (3, 0x90, 0xbf)
  else if 0xf1 ≤ b ∧ b ≤ 0xf3 then some (3, 0x80, 0xbf)
  else if b = 0xf4 then some (3, 0x80, 0x8f)
  else none

/-- The payload bits of a leading byte with `count` bytes to follow. -/
def leadingBits (b count : Nat) : Nat :=
  b % Nat.pow 2 (6 - count)

/-- The state between two bytes: none begun, or a character with its bits so far, the bytes
it still needs and the range the next must lie in. -/
inductive Utf8State where
  | start
  | within (bits needed low high : Nat)

/-- What the state and one byte give: the characters finished or replaced, and the state
after. -/
def utf8Step (state : Utf8State) (b : Nat) : List (Option Char) × Utf8State :=
  let first : List (Option Char) × Utf8State :=
    if b < 0x80 then ([some (Char.ofNat b)], .start)
    else
      match followers? b with
      | some (n, low, high) => ([], .within (leadingBits b n) n low high)
      | none => ([none], .start)
  match state with
  | .start => first
  | .within bits needed low high =>
    if low ≤ b ∧ b ≤ high then
      let bits := bits * 64 + b % 64
      if needed = 1 then ([some (Char.ofNat bits)], .start)
      else ([], .within bits (needed - 1) 0x80 0xbf)
    else (none :: first.1, first.2)

/-- The characters of a run of bytes, `none` where there is no character. -/
def utf8Chars (state : Utf8State) : List UInt8 → List (Option Char)
  | [] =>
    match state with
    | .start => []
    | .within .. => [none]
  | b :: bs =>
    let (out, next) := utf8Step state b.toNat
    out ++ utf8Chars next bs

def ofUtf8? (bytes : List UInt8) : Option String :=
  ((utf8Chars .start bytes).mapM id).map String.ofList

def ofUtf8Lossy (bytes : List UInt8) : String :=
  String.ofList ((utf8Chars .start bytes).map (·.getD '\ufffd'))

def toUtf8 (s : String) : List UInt8 :=
  s.toUTF8.toList

/-- Each byte as the character of its number, so that ASCII alone keeps its meaning. -/
def byteChars (bytes : List UInt8) : List Char :=
  bytes.map fun b => Char.ofNat b.toNat

end SqlMapper.Text
