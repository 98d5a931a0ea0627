import SqlMapper.Text.WordTable

/-! Word characters, and the finding of a whole word. -/

namespace SqlMapper.Text

def isWordChar (c : Char) : Bool :=
  if c.toNat < 0x80 then c.isAlphanum || c == '_' else inRanges wordRanges c.toNat

/-- Whether the text begins with the word in either case and the word ends there. -/
def startsWord (word : List Char) (cs : List Char) : Bool :=
  let (front, rest) := cs.splitAt word.length
  front.map Char.toLower == word &&
    match rest with
    | [] => true
    | c :: _ => !isWordChar c

end SqlMapper.Text
