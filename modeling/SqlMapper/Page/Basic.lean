/-! Pages of a result: what a caller asks for, and what is given back. Page numbers and
sizes are unsigned 64-bit words; page 0 counts as page 1. -/

namespace SqlMapper

structure OrderItem where
  column : String
  ascending : Bool
  deriving DecidableEq, Repr

structure PageRequest where
  current : UInt64
  size : UInt64
  orders : List OrderItem
  deriving DecidableEq, Repr

namespace PageRequest

def number (p : PageRequest) : UInt64 :=
  if p.current = 0 then 1 else p.current

/-- The rows before the page, unless their number exceeds a word. -/
def offset? (p : PageRequest) : Option UInt64 :=
  let rows := (p.number.toNat - 1) * p.size.toNat
  if rows < 0x10000000000000000 then some (UInt64.ofNat rows) else none

end PageRequest

structure Page (α : Type) where
  total : UInt64
  size : UInt64
  current : UInt64
  records : List α

namespace Page

def empty (current size : UInt64) : Page α :=
  ⟨0, size, current, []⟩

def offset (p : Page α) : UInt64 :=
  UInt64.ofNat (min ((p.current.toNat - 1) * p.size.toNat) 0xffffffffffffffff)

/-- How many pages the total fills, the last one perhaps in part. -/
def count (p : Page α) : UInt64 :=
  if p.size = 0 then 0 else UInt64.ofNat ((p.total.toNat + p.size.toNat - 1) / p.size.toNat)

def map (f : α → β) (p : Page α) : Page β :=
  ⟨p.total, p.size, p.current, p.records.map f⟩

end Page

end SqlMapper
