import SqlMapper.Text.JoiningTable
import SqlMapper.Text.Mark

/-! The places where a character without a width that joins or parts its neighbours changes
how they look. -/

namespace SqlMapper.Text

def joinsAfter (c : Char) : Bool :=
  inRanges joinsAfterRanges c.toNat || inRanges joinsBothRanges c.toNat

def joinsBefore (c : Char) : Bool :=
  inRanges joinsBeforeRanges c.toNat || inRanges joinsBothRanges c.toNat

/-- A character that letters join across. -/
def isTransparent (c : Char) : Bool :=
  isNonspacing c || c.toNat == 0x1e94b

/-- Whether the first character that is not transparent is as asked. -/
def meets (p : Char → Bool) (cs : List Char) : Bool :=
  (cs.dropWhile isTransparent).head?.any p

/-- Whether each joiner has its effect in a text whose characters before it are given in
reverse: behind a virama, or, for the one that parts, between two letters that would join. -/
def joinersFit (before : List Char) : List Char → Bool
  | [] => true
  | c :: cs =>
    let here :=
      if c == '\u200c' then
        before.head?.any isVirama || (meets joinsAfter before && meets joinsBefore cs)
      else if c == '\u200d' then before.head?.any isVirama
      else true
    here && joinersFit (c :: before) cs

end SqlMapper.Text
