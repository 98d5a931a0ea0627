import SqlMapper.Fill.Registry

/-! Registries made of rules. A rule fills its column with a constant or with the numbers of
a counter; the state of the fill functions is the next number of every counter. -/

namespace SqlMapper

inductive FillSource where
  | constant (value : Option SqlValue)
  | counter (start : Int64)

structure FillRule where
  trigger : Trigger
  column : String
  source : FillSource

abbrev Counters := List Int64

namespace FillFunction

def constant (value : Option SqlValue) : FillFunction σ :=
  fun state => (value, state)

/-- The next number of a counter, which starts again from the least one after the greatest. -/
def counter (index : Nat) : FillFunction Counters :=
  fun counters =>
    match counters[index]? with
    | some n => (some (.bigint n), counters.set index (n + 1))
    | none => (none, counters)

end FillFunction

namespace FillRegistry

/-- Registers a rule; its counter, if it has one, comes after those there are. -/
def addRule (r : FillRegistry Counters × Counters) (rule : FillRule) :
    FillRegistry Counters × Counters :=
  match rule.source with
  | .constant value => (r.1.register rule.trigger rule.column (.constant value), r.2)
  | .counter start =>
    (r.1.register rule.trigger rule.column (.counter r.2.length), r.2 ++ [start])

def ofRules (rules : List FillRule) : FillRegistry Counters × Counters :=
  rules.foldl addRule (empty, [])

end FillRegistry

end SqlMapper
