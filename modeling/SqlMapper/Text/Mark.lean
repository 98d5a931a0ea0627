import SqlMapper.Text.MarkTable
import SqlMapper.Text.Ranges

/-! Marks, and the classes that order the marks on one character. -/

namespace SqlMapper.Text

def isNonspacing (c : Char) : Bool :=
  0x300 ≤ c.toNat && inRanges nonspacingRanges c.toNat

def isMark (c : Char) : Bool :=
  isNonspacing c || inRanges spacingRanges c.toNat

/-- Zero, unless the character is a mark that may change places with others. -/
def combiningClass (c : Char) : Nat :=
  if c.toNat < 0x300 then 0
  else
    match combiningClasses.find? fun r => r.1 ≤ c.toNat && c.toNat ≤ r.2.1 with
    | some r => r.2.2
    | none => 0

/-- A mark that takes the vowel from a consonant. -/
def isVirama (c : Char) : Bool :=
  combiningClass c == 9

end SqlMapper.Text
