import SqlMapper.Text.CaseTable

/-! Lower case of all scripts, and the underscore form of names in camel case. -/

namespace SqlMapper.Text

def isUppercase (c : Char) : Bool :=
  if c.toNat < 0x80 then c.isUpper
  else upperStrides.any fun s => s.contains c.toNat

/-- The lower case of one character by itself; a dotted capital I keeps its dot. -/
def lowerChar (c : Char) : List Char :=
  if c.toNat < 0x80 then [c.toLower]
  else if c == '\u0130' then ['i', '\u0307']
  else
    match lowerShifts.find? fun s => s.contains c.toNat with
    | some s => [Char.ofNat (c.toNat + s.shift).toNat]
    | none => [c]

def isCaseIgnorable (c : Char) : Bool :=
  if c.toNat < 0x80 then c == '\'' || c == '.' || c == ':' || c == '^' || c == '\x60'
  else inRanges caseIgnorableRanges c.toNat

def isCased (c : Char) : Bool :=
  if c.toNat < 0x80 then c.isAlpha else inRanges casedRanges c.toNat

/-- Whether the first character that is not case-ignorable is a letter with case. -/
def meetsCased (cs : List Char) : Bool :=
  match cs.dropWhile isCaseIgnorable with
  | c :: _ => isCased c
  | [] => false

/-- The lower case of a text whose characters before it are given in reverse. A sigma that
ends a word takes its final form. -/
def lowerFrom (before : List Char) : List Char → List Char
  | [] => []
  | c :: cs =>
    let lower :=
      if c == '\u03a3' then
        if meetsCased before && !meetsCased cs then ['\u03c2'] else ['\u03c3']
      else lowerChar c
    lower ++ lowerFrom (c :: before) cs

def toLower (s : String) : String :=
  String.ofList (lowerFrom [] s.toList)

def underscoreChar (c : Char) : List Char :=
  if isUppercase c then '_' :: lowerChar c else [c]

/-- `SysUser` as `sys_user`: the first letter is put in lower case without an underscore. -/
def underscoreChars : List Char → List Char
  | [] => []
  | c :: cs => (if isUppercase c then lowerChar c else [c]) ++ cs.flatMap underscoreChar

def underscore (name : String) : String :=
  String.ofList (underscoreChars name.toList)

/-- A name without the marks `r#` in front of it, by which a keyword is used as a name. -/
def stripRawMark : List Char → List Char
  | 'r' :: '#' :: cs => stripRawMark cs
  | cs => cs

def underscoreDeclared (name : String) : String :=
  String.ofList (underscoreChars (stripRawMark name.toList))

end SqlMapper.Text
