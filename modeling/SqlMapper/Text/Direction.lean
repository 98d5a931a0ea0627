import SqlMapper.Text.DirectionTable
import SqlMapper.Text.Mark

/-! The direction in which the characters of domain names are written. -/

namespace SqlMapper.Text

inductive Direction where
  | left
  | right
  | arabicNumber
  | europeanNumber
  | mark
  | neutral
  deriving DecidableEq, Repr

def direction (c : Char) : Direction :=
  if c.toNat < 0x80 then
    if c.isAlpha then .left else if c.isDigit then .europeanNumber else .neutral
  else if isNonspacing c then
    if leftMarks.contains c.toNat then .left else .mark
  else if inRanges rightRanges c.toNat then .right
  else if inRanges arabicNumberRanges c.toNat then .arabicNumber
  else if inRanges europeanNumberRanges c.toNat then .europeanNumber
  else if inRanges neutralRanges c.toNat then .neutral
  else .left

end SqlMapper.Text
