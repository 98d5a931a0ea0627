import SqlMapper.Json.Reader

/-! Structures read from JSON. A structure is an object with at most one member for each
field, other members being passed over unread, or else an array of the first fields in
their order. -/

namespace SqlMapper.Json.Source

/-- The one member under a key. The result is `none` if there are several. -/
def uniqueMember? (key : String) (members : List (Option String × Source)) :
    Option (Option Source) :=
  match members.filter fun m => m.1 == some key with
  | [] => some none
  | [m] => some (some m.2)
  | _ => none

/-- What stands for each of the named fields, if anything does. -/
def fields? (names : List String) : Source → Option (List (Option Source))
  | .array items =>
    if items.length ≤ names.length then
      some (items.map some ++ List.replicate (names.length - items.length) none)
    else none
  | .object members =>
    if members.all fun m => m.1.isSome then names.mapM fun key => uniqueMember? key members
    else none
  | _ => none

def toWord? : Source → Option UInt64
  | .number n =>
    match n.toNumber? with
    | some (.integer val ..) => if 0 ≤ val then some (UInt64.ofNat val.toNat) else none
    | _ => none
  | _ => none

def toBool? : Source → Option Bool
  | .bool b => some b
  | _ => none

def toString? : Source → Option String
  | .string s => s
  | _ => none

def toItems? : Source → Option (List Source)
  | .array items => some items
  | _ => none

/-- A field that may be left out. -/
def optional (fallback : α) (read : Source → Option α) : Option Source → Option α
  | none => some fallback
  | some s => read s

/-- A field that must be there. -/
def required (read : Source → Option α) (s : Option Source) : Option α :=
  s.bind read

end SqlMapper.Json.Source
