import SqlMapper.Decimal.Integer
import SqlMapper.Json.Fields
import SqlMapper.Json.Printer
import SqlMapper.Page.Basic
import SqlMapper.Value.Reader

/-! Page requests and pages as JSON. In a request every field may be left out and an order
ascends unless it says otherwise; a page has all its fields. -/

namespace SqlMapper

namespace OrderItem

def ofSource? (s : Json.Source) : Option OrderItem := do
  match ← s.fields? ["column", "asc"] with
  | [column, ascending] =>
    some ⟨← Json.Source.required Json.Source.toString? column,
      ← Json.Source.optional true Json.Source.toBool? ascending⟩
  | _ => none

def ofText? (s : String) : Option OrderItem := do
  ofSource? (← Json.Source.ofText? s)

def serialize (o : OrderItem) : String :=
  Json.renderObject
    [("column", Json.quote o.column), ("asc", if o.ascending then "true" else "false")]

end OrderItem

namespace PageRequest

def ordersOf? (s : Json.Source) : Option (List OrderItem) := do
  (← s.toItems?).mapM OrderItem.ofSource?

def ofText? (s : String) : Option PageRequest := do
  let source ← Json.Source.ofText? s
  match ← source.fields? ["current", "size", "orders"] with
  | [current, size, orders] =>
    some ⟨← Json.Source.optional 0 Json.Source.toWord? current,
      ← Json.Source.optional 0 Json.Source.toWord? size,
      ← Json.Source.optional [] ordersOf? orders⟩
  | _ => none

def serialize (p : PageRequest) : String :=
  Json.renderObject
    [("current", Decimal.ofNat p.current.toNat), ("size", Decimal.ofNat p.size.toNat),
     ("orders", Json.renderArray (p.orders.map OrderItem.serialize))]

end PageRequest

namespace Page

def recordsOf? (s : Json.Source) : Option (List SqlValue) := do
  (← s.toItems?).mapM (SqlValue.ofSource? (Json.nestingLimit - 2))

def ofText? (s : String) : Option (Page SqlValue) := do
  let source ← Json.Source.ofText? s
  match ← source.fields? ["total", "size", "current", "records"] with
  | [total, size, current, records] =>
    some ⟨← Json.Source.required Json.Source.toWord? total,
      ← Json.Source.required Json.Source.toWord? size,
      ← Json.Source.required Json.Source.toWord? current,
      ← Json.Source.required recordsOf? records⟩
  | _ => none

def serialize (record : α → String) (p : Page α) : String :=
  Json.renderObject
    [("total", Decimal.ofNat p.total.toNat), ("size", Decimal.ofNat p.size.toNat),
     ("current", Decimal.ofNat p.current.toNat),
     ("records", Json.renderArray (p.records.map record))]

end Page

end SqlMapper
