import SqlMapper.Text.CompositionTable
import SqlMapper.Text.Mark

/-! The composed form of a text, in which two spellings of the same marks and syllables agree.
Characters that only repeat another one are left as they are. -/

namespace SqlMapper.Text

/-- The syllable of Hangul that a leading consonant and a vowel make, or a syllable without a
trailing consonant and such a consonant. -/
def hangulWhole? (a b : Nat) : Option Nat :=
  if 0x1100 ≤ a && a ≤ 0x1112 && 0x1161 ≤ b && b ≤ 0x1175 then
    some (0xac00 + ((a - 0x1100) * 21 + (b - 0x1161)) * 28)
  else if 0xac00 ≤ a && a ≤ 0xd7a3 && (a - 0xac00) % 28 == 0 && 0x11a8 ≤ b && b ≤ 0x11c2 then
    some (a + (b - 0x11a7))
  else none

def hangulParts? (n : Nat) : Option (Nat × Nat) :=
  if 0xac00 ≤ n && n ≤ 0xd7a3 then
    let k := n - 0xac00
    if k % 28 == 0 then some (0x1100 + k / 588, 0x1161 + k % 588 / 28)
    else some (n - k % 28, 0x11a7 + k % 28)
  else none

def Composites.whole? (r : Composites) (a b : Char) : Option Char :=
  if r.second == b.toNat then (r.firsts.toList.zip r.wholes.toList).lookup a else none

def Composites.parts? (r : Composites) (c : Char) : Option (Char × Char) :=
  ((r.wholes.toList.zip r.firsts.toList).lookup c).map fun a => (a, Char.ofNat r.second)

def whole? (a b : Char) : Option Char :=
  if b.toNat < 0x300 then none
  else
    (hangulWhole? a.toNat b.toNat).map Char.ofNat <|>
    nearComposites.findSome? (fun r => r.whole? a b) <|>
    (farComposites.find? fun r => r.1 == a.toNat && r.2.1 == b.toNat).map fun r =>
      Char.ofNat r.2.2

/-- The two characters that a character stands for. -/
def parts? (c : Char) : Option (Char × Char) :=
  if c.toNat < 0xc0 then none
  else
    (hangulParts? c.toNat).map (fun r => (Char.ofNat r.1, Char.ofNat r.2)) <|>
    nearComposites.findSome? (fun r => r.parts? c) <|>
    (farComposites.find? fun r => r.2.2 == c.toNat).map fun r =>
      (Char.ofNat r.1, Char.ofNat r.2.1)

/-- What a character comes apart into in a number of steps, the first part going on to come
apart. -/
def decomposeIn : Nat → Char → List Char
  | 0, c => [c]
  | n + 1, c =>
    match parts? c with
    | none => [c]
    | some (a, b) => decomposeIn n a ++ [b]

/-- All the parts of a character, of which there are never more than four. -/
def decompose (c : Char) : List Char :=
  decomposeIn 3 c

/-- Puts a character behind others, which are given in reverse. A mark stands before the marks
of greater classes. -/
def insertMark (c : Char) : List Char → List Char
  | [] => [c]
  | d :: before =>
    if combiningClass c != 0 && combiningClass c < combiningClass d then
      d :: insertMark c before
    else c :: d :: before

def sortMarks (cs : List Char) : List Char :=
  (cs.foldl (fun before c => insertMark c before) []).reverse

/-- Whether a mark of the same or a greater class stands between a character and those that
are kept before it in reverse. -/
def isBlocked (kept : List Char) (c : Char) : Bool :=
  kept.head?.any fun d => combiningClass c ≤ combiningClass d

/-- The composed form of a character, the marks that are kept behind it in reverse, and the
text that follows. -/
def composeFrom (start : Char) (kept : List Char) : List Char → List Char
  | [] => start :: kept.reverse
  | c :: cs =>
    match if isBlocked kept c then none else whole? start c with
    | some w => composeFrom w kept cs
    | none =>
      if combiningClass c == 0 then start :: (kept.reverse ++ composeFrom c [] cs)
      else composeFrom start (c :: kept) cs

def compose (cs : List Char) : List Char :=
  match sortMarks (cs.flatMap decompose) with
  | [] => []
  | c :: rest => composeFrom c [] rest

end SqlMapper.Text
