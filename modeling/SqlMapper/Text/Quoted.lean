import SqlMapper.Text.QuoteTable

/-! Texts and characters in quotes with escapes, as reports show them. -/

namespace SqlMapper.Text

def isUnprintable (c : Char) : Bool :=
  if c.toNat < 0x80 then c.toNat < 0x20 || c.toNat == 0x7f
  else inRanges unprintableRanges c.toNat

/-- A character without a glyph is written as its code point. -/
def escapeQuoted (c : Char) : List Char :=
  match c with
  | '\u0000' => ['\\', '0']
  | '\t' => ['\\', 't']
  | '\r' => ['\\', 'r']
  | '\n' => ['\\', 'n']
  | '"' => ['\\', '"']
  | '\\' => ['\\', '\\']
  | c =>
    if isUnprintable c then
      ['\\', 'u', '{'] ++ Nat.toDigits 16 c.toNat ++ ['}']
    else [c]

def quoted (s : String) : String :=
  "\"" ++ String.ofList (s.toList.flatMap escapeQuoted) ++ "\""

/-- A character between apostrophes; only these need an escape there that texts do not. -/
def quotedChar (c : Char) : String :=
  let inner := if c == '\'' then ['\\', '\''] else if c == '"' then ['"'] else escapeQuoted c
  "'" ++ String.ofList inner ++ "'"

def quotedList (items : List String) : String :=
  "[" ++ ", ".intercalate (items.map quoted) ++ "]"

end SqlMapper.Text
