import SqlMapper.Proofs.Outcome
import SqlMapper.Proofs.Statement.Assembly

/-! One page of a query: which requests there is a statement for, and what it is. -/

namespace SqlMapper

namespace PageRequest

/-- The number of rows before the page, however large. -/
def before (p : PageRequest) : Nat :=
  (p.number.toNat - 1) * p.size.toNat

structure IsBindable (p : PageRequest) : Prop where
  orders : ∀ o ∈ p.orders, Text.isIdentifier (Text.trim o.column).toList = true
  size : p.size.toNat < 0x8000000000000000
  before : p.before < 0x8000000000000000

/-- Why a request that is not bindable is refused. -/
def refusal (p : PageRequest) : InvalidField :=
  match p.orders.find? fun o => !Text.isIdentifier (Text.trim o.column).toList with
  | some o => .orderColumn o.column
  | none => .page p.current p.size

def orderText (o : OrderItem) : String :=
  Text.trim o.column ++ " " ++ if o.ascending then "asc" else "desc"

def orderClause (orders : List OrderItem) : String :=
  if orders.isEmpty then "" else " ORDER BY " ++ Dialect.listed (orders.map orderText)

/-- The page of a query as one statement. Its own values are bound after those of the query. -/
def window (p : PageRequest) (sql : String) : Statement :=
  ⟨"SELECT * FROM (" ++ Text.trim sql ++ ") t" ++ orderClause p.orders ++ " LIMIT ? OFFSET ?",
    [.bigint (.ofNat p.size.toNat), .bigint (.ofNat p.before)]⟩

theorem number_toNat (p : PageRequest) : p.number.toNat = max p.current.toNat 1 := by
  rw [number]
  split
  · simp [*]
  · rename_i h
    have hpos : p.current.toNat ≠ 0 := fun hz => h (UInt64.toNat_inj.mp hz)
    omega

end PageRequest

theorem Page.offset_toNat {page : Page β}
    (h : (page.current.toNat - 1) * page.size.toNat < 0x10000000000000000) :
    page.offset.toNat = (page.current.toNat - 1) * page.size.toNat := by
  have hmin : min ((page.current.toNat - 1) * page.size.toNat) 0xffffffffffffffff =
      (page.current.toNat - 1) * page.size.toNat := by omega
  rw [offset, hmin]
  exact UInt64.toNat_ofNat_of_lt' h

namespace Dialect

open PageRequest (orderText orderClause)

theorem orderBy_eq (orders : List OrderItem) :
    orderBy orders =
      match orders.find? fun o => !Text.isIdentifier (Text.trim o.column).toList with
      | some o => .error (.invalidField (.orderColumn o.column))
      | none => .ok (listed (orders.map orderText)) := by
  have hitems : orders.mapM orderItem =
      match orders.find? fun o => !Text.isIdentifier (Text.trim o.column).toList with
      | some o => .error (.invalidField (.orderColumn o.column))
      | none => .ok (orders.map orderText) := by
    induction orders with
    | nil => rfl
    | cons o rest ih =>
      rw [List.mapM_cons, ih, List.find?_cons, orderItem]
      by_cases ho : Text.isIdentifier (Text.trim o.column).toList = true
      · simp only [ho, if_true, Bool.not_true]
        cases rest.find? fun o => !Text.isIdentifier (Text.trim o.column).toList <;> rfl
      · simp only [ho, Bool.not_false]
        rfl
  rw [orderBy, hitems]
  split <;> rfl

theorem signedWord?_eq (n : UInt64) :
    signedWord? n =
      if n.toNat < 0x8000000000000000 then some (.bigint (.ofNat n.toNat)) else none := by
  have hn : Int64.ofNat n.toNat = (UInt64.ofNat n.toNat).toInt64 := rfl
  rw [hn, UInt64.ofNat_toNat, signedWord?]

theorem offset?_bind_signedWord? (p : PageRequest) :
    p.offset?.bind signedWord? =
      if p.before < 0x8000000000000000 then some (.bigint (.ofNat p.before)) else none := by
  rw [PageRequest.offset?, ← PageRequest.before]
  by_cases hword : p.before < 0x10000000000000000
  · have htoNat : (UInt64.ofNat p.before).toNat = p.before := UInt64.toNat_ofNat_of_lt' hword
    rw [if_pos hword, Option.bind_some, signedWord?_eq, htoNat]
  · rw [if_neg hword, if_neg (by omega), Option.bind_none]

theorem pageParams_eq (p : PageRequest) :
    pageParams p =
      if p.size.toNat < 0x8000000000000000 ∧ p.before < 0x8000000000000000 then
        .ok [.bigint (.ofNat p.size.toNat), .bigint (.ofNat p.before)]
      else .error (.invalidField (.page p.current p.size)) := by
  rw [pageParams, signedWord?_eq, offset?_bind_signedWord?]
  by_cases hs : p.size.toNat < 0x8000000000000000 <;>
    by_cases hb : p.before < 0x8000000000000000 <;> simp [hs, hb]

theorem listed_orderText_eq_empty_iff {orders : List OrderItem} :
    listed (orders.map orderText) = "" ↔ orders = [] := by
  refine ⟨fun h => ?_, fun h => h ▸ rfl⟩
  have hlist := congrArg String.toList h
  rcases orders with _ | ⟨o, _ | ⟨next, rest⟩⟩
  · rfl
  all_goals simp [listed, orderText] at hlist

theorem intercalate_window (a : String) (orders : List OrderItem) :
    " ".intercalate ([a] ++ (if (listed (orders.map orderText)).isEmpty then []
        else ["ORDER BY " ++ listed (orders.map orderText)]) ++ [pagination]) =
      a ++ orderClause orders ++ " LIMIT ? OFFSET ?" := by
  cases orders with
  | nil => simp [listed, orderClause, pagination, String.append_assoc]
  | cons o rest =>
    have hne := mt listed_orderText_eq_empty_iff.mp (List.cons_ne_nil o rest)
    have hclause : orderClause (o :: rest) =
        " ORDER BY " ++ listed ((o :: rest).map orderText) := rfl
    rw [hclause]
    generalize listed ((o :: rest).map orderText) = order at hne
    have hby (text : String) : " " ++ ("ORDER BY " ++ text) = " ORDER BY " ++ text :=
      (String.append_assoc ..).symm
    simp [hne, hby, pagination, String.append_assoc]

theorem page_of_isBindable {p : PageRequest} (h : p.IsBindable) (sql : String) :
    mysql.page sql p = .ok (p.window sql) := by
  have hfind : (p.orders.find? fun o => !Text.isIdentifier (Text.trim o.column).toList) = none := by
    rw [List.find?_eq_none]
    intro o ho
    simpa using h.orders o ho
  rw [page_eq, orderBy_eq, hfind, pageParams_eq, if_pos ⟨h.size, h.before⟩, bind_ok, map_ok,
    intercalate_window]
  rfl

theorem page_of_not_isBindable {p : PageRequest} (h : ¬p.IsBindable) (sql : String) :
    mysql.page sql p = .error (.invalidField p.refusal) := by
  rw [page_eq, orderBy_eq, PageRequest.refusal]
  cases hfind : p.orders.find? fun o => !Text.isIdentifier (Text.trim o.column).toList with
  | some o => rfl
  | none =>
    have horders : ∀ o ∈ p.orders, Text.isIdentifier (Text.trim o.column).toList = true := by
      intro o ho
      simpa using List.find?_eq_none.mp hfind o ho
    have hwords : ¬(p.size.toNat < 0x8000000000000000 ∧ p.before < 0x8000000000000000) :=
      fun hw => h ⟨horders, hw.1, hw.2⟩
    rw [pageParams_eq, if_neg hwords]
    rfl

end Dialect

end SqlMapper
