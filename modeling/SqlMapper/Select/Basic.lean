import SqlMapper.Condition.Fragment
import SqlMapper.Select.Where
import SqlMapper.Statement.Basic
import SqlMapper.Table.Descriptor

/-! Statements under construction. A `Select` appends conditions to a base statement and
keeps the bind values in the order of the placeholders; a `Group` collects conditions that
go into one pair of parentheses. A condition whose value does not fit its operator is
left out and remembered as an error. -/

namespace SqlMapper

/-- Conditions collected for parentheses. The link is that of the next condition only. -/
structure Group where
  fragments : List Fragment
  link : Link
  errors : List DataError

namespace Group

def empty : Group := ⟨[], .and, []⟩

def isEmpty (g : Group) : Bool := g.fragments.isEmpty

def condition (g : Group) (column : String) (keyword : Keyword) (value : SqlValue) : Group :=
  match Fragment.render column keyword value g.link with
  | .ok (some f) => { g with fragments := g.fragments ++ [f], link := .and }
  | .ok none => { g with link := .and }
  | .error e => { g with errors := g.errors ++ [e], link := .and }

def nextLink (g : Group) (link : Link) : Group :=
  { g with link }

def push (g : Group) (f : Fragment) : Group :=
  { g with fragments := g.fragments ++ [f] }

/-- The conditions joined by their links; the first one's link would have nothing before
it. -/
def body : List Fragment → String
  | [] => ""
  | f :: fs => f.body ++ String.join (fs.map fun g => " " ++ g.link.word ++ " " ++ g.body)

inductive Step where
  | condition (column : String) (keyword : Keyword) (value : SqlValue)
  | nextLink (link : Link)
  | push (fragment : Fragment)

def step (g : Group) : Step → Group
  | .condition column keyword value => g.condition column keyword value
  | .nextLink link => g.nextLink link
  | .push f => g.push f

def collect (steps : List Step) : Group :=
  steps.foldl step empty

end Group

/-- A statement so far, with its bind values. The link is that of the next condition only. -/
structure Select where
  sql : String
  values : List SqlValue
  link : Link
  errors : List DataError

namespace Select

def empty : Select := ⟨"", [], .and, []⟩

/-- A statement and a trimmed text with one space between them; a blank text adds nothing. -/
def joinSql (sql text : String) : String :=
  let text := Text.trim text
  if text.isEmpty then sql
  else if sql.isEmpty || sql.toList.getLast? == some ' ' then sql ++ text
  else sql ++ " " ++ text

def append (s : Select) (text : String) : Select :=
  { s with sql := joinSql s.sql text }

def appendWith (s : Select) (text : String) (values : List SqlValue) : Select :=
  { s with sql := joinSql s.sql text, values := s.values ++ values }

/-- Starts from a base statement, which gets a `where` if it has none of its own. -/
def ofBase (base : String) : Select :=
  let s := empty.append base
  if hasOuterWhere base then s else s.append "WHERE 1=1"

def condition (s : Select) (column : String) (keyword : Keyword) (value : SqlValue) : Select :=
  match Fragment.render column keyword value s.link with
  | .ok (some f) => { s.appendWith (f.link.word ++ " " ++ f.body) f.values with link := .and }
  | .ok none => { s with link := .and }
  | .error e => { s with errors := s.errors ++ [e], link := .and }

def nextLink (s : Select) (link : Link) : Select :=
  { s with link }

/-- Appends a group in parentheses, joined by `link`; an empty group adds its errors only. -/
def group (s : Select) (link : Link) (g : Group) : Select :=
  let s := { s with errors := s.errors ++ g.errors, link := .and }
  if g.isEmpty then s
  else
    s.appendWith (link.word ++ " (" ++ Group.body g.fragments ++ ")")
      (g.fragments.flatMap (·.values))

def applyField (s : Select) (f : FieldDescriptor) : Select :=
  s.condition f.compareColumn f.keyword f.value

def apply (s : Select) (d : TableDescriptor) : Select :=
  d.fields.foldl applyField s

/-- The conditions of a descriptor after a base statement, by default all of its table. -/
def ofDescriptor (d : TableDescriptor) (base : Option String) : Select :=
  (ofBase (base.getD ("SELECT * FROM " ++ d.table))).apply d

def build (s : Select) : Statement :=
  ⟨s.sql, s.values⟩

/-- The statement and its values, unless a condition was left out for its value. -/
def tryBuild (s : Select) : Except DataError Statement :=
  match s.errors with
  | e :: _ => .error e
  | [] => .ok s.build

/-- What was reported so far: a warning for every condition left out for its value. -/
def log (s : Select) : Log :=
  s.errors.map fun e => ⟨.warn, "skip condition: " ++ e.message⟩

inductive Step where
  | condition (column : String) (keyword : Keyword) (value : SqlValue)
  | nextLink (link : Link)
  | append (sql : String)
  | appendWith (sql : String) (values : List SqlValue)
  | apply (d : TableDescriptor)
  | group (link : Link) (steps : List Group.Step)

def step (s : Select) : Step → Select
  | .condition column keyword value => s.condition column keyword value
  | .nextLink link => s.nextLink link
  | .append sql => s.append sql
  | .appendWith sql values => s.appendWith sql values
  | .apply d => s.apply d
  | .group link steps => s.group link (Group.collect steps)

def run (s : Select) (steps : List Step) : Select :=
  steps.foldl step s

end Select

end SqlMapper
