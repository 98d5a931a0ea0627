/-! Punycode, which writes any text in ASCII: the plain characters first, and then, as numbers
in base 36, where the others are put in and which they are. -/

namespace SqlMapper.Url.Punycode

def digit? (c : Char) : Option Nat :=
  if 'a' ≤ c && c ≤ 'z' then some (c.toNat - 97)
  else if 'A' ≤ c && c ≤ 'Z' then some (c.toNat - 65)
  else if c.isDigit then some (c.toNat - 22)
  else none

/-- The value below which the digit at a place ends its number. -/
def threshold (place bias : Nat) : Nat :=
  if place ≤ bias then 1 else if bias + 26 ≤ place then 26 else place - bias

/-- Numbers are kept to 32 bits. -/
def word? (n : Nat) : Option Nat :=
  if n < 0x100000000 then some n else none

/-- A sum to which one number is added from the front of a text, and the rest of the text. -/
def addNumber? (bias : Nat) : List Char → Nat → Nat → Nat → Option (Nat × List Char)
  | [], _, _, _ => none
  | c :: cs, place, weight, sum => do
    let d ← digit? c
    let sum ← word? (sum + d * weight)
    if d < threshold place bias then some (sum, cs)
    else
      let weight ← word? (weight * (36 - threshold place bias))
      addNumber? bias cs (place + 36) weight sum

theorem length_of_addNumber? {bias : Nat} {cs : List Char} {place weight sum : Nat}
    {r : Nat × List Char} (h : addNumber? bias cs place weight sum = some r) :
    r.2.length < cs.length := by
  induction cs generalizing place weight sum with
  | nil => simp [addNumber?] at h
  | cons c cs ih =>
    simp only [addNumber?, Option.bind_eq_bind, Option.bind_eq_some_iff] at h
    obtain ⟨d, _, s, _, h⟩ := h
    split at h
    · cases h
      simp
    · obtain ⟨w, _, h⟩ := Option.bind_eq_some_iff.1 h
      have := ih h
      simp
      omega

/-- Divides a number by 35 until it is small, and counts 36 for every time. -/
def shrink (delta count : Nat) : Nat × Nat :=
  if 455 < delta then shrink (delta / 35) (count + 36) else (delta, count)
termination_by delta
decreasing_by omega

/-- The bias for the next number, after one that put in the last of `size` characters. -/
def adapt (delta size : Nat) (isFirst : Bool) : Nat :=
  let delta := if isFirst then delta / 700 else delta / 2
  let (delta, count) := shrink (delta + delta / size) 0
  count + 36 * delta / (delta + 38)

/-- Puts in the characters that the numbers of a text tell, with `sum` the place after the last
one and `code` its code point. -/
def insertAll? (bias code sum : Nat) (out cs : List Char) : Option (List Char) :=
  if cs.isEmpty then some out
  else
    match _ : addNumber? bias cs 36 1 sum with
    | none => none
    | some (next, rest) =>
      let size := out.length + 1
      let code := code + next / size
      if code.isValidChar then
        insertAll? (adapt (next - sum) size (sum == 0)) code (next % size + 1)
          (out.insertIdx (next % size) (Char.ofNat code)) rest
      else none
termination_by cs.length
decreasing_by exact length_of_addNumber? (by assumption)

/-- The text that an ASCII text stands for. The last hyphen ends the plain characters, of which
there is then at least one. -/
def decode? (cs : List Char) : Option (List Char) :=
  let numbers := (cs.reverse.takeWhile (· != '-')).reverse
  match cs.take (cs.length - numbers.length) with
  | [] => insertAll? 72 128 0 [] numbers
  | ['-'] => none
  | plain => insertAll? 72 128 0 (plain.dropLast.map Char.toLower) numbers

end SqlMapper.Url.Punycode
