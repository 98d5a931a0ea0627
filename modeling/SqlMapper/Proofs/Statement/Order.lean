import SqlMapper.Proofs.Statement.Page
import SqlMapper.Proofs.Text.Identifier
import SqlMapper.Proofs.Text.Split

/-! The order of a page, the one place where what is asked for goes into the text. There is a clause
exactly if all columns are bare identifiers, and it reads back as the columns with their
directions. -/

namespace SqlMapper

namespace OrderItem

/-- The column is a bare identifier, blanks around it aside. -/
def IsBare (o : OrderItem) : Prop := (Text.trim o.column).toList ∈ Text.identifiers

def direction (o : OrderItem) : String := if o.ascending then "asc" else "desc"

theorem isBare_iff (o : OrderItem) :
    o.IsBare ↔ Text.isIdentifier (Text.trim o.column).toList = true :=
  (Text.isIdentifier_iff _).symm

theorem orderText_eq (o : OrderItem) :
    PageRequest.orderText o = " ".intercalate [Text.trim o.column, o.direction] := by
  rw [String.intercalate_cons_cons, String.intercalate_singleton]
  rfl

/-- No separator of a clause is among the characters of its words. -/
theorem mem_of_mem_word {o : OrderItem} (h : o.IsBare) {word : String}
    (hword : word ∈ [Text.trim o.column, o.direction]) {c : Char} (hc : c ∈ word.toList) :
    c ∈ Text.letters ∪ Text.digits ∪ {'_'} := by
  rcases List.mem_pair.mp hword with rfl | rfl
  · exact Text.mem_of_mem_identifiers h hc
  · have hletters : o.direction.toList.all Char.isAlpha = true := by
      unfold direction
      split <;> decide
    exact .inl (.inl ((Text.isAlpha_iff c).mp (List.all_eq_true.mp hletters c hc)))

theorem mem_of_mem_orderText {o : OrderItem} (h : o.IsBare) {c : Char}
    (hc : c ∈ (PageRequest.orderText o).toList) :
    c ∈ Text.letters ∪ Text.digits ∪ {'_', ' '} := by
  rw [orderText_eq] at hc
  refine Text.forall_mem_intercalate ?_ (fun word hword c hc => ?_) c hc
  · exact List.forall_mem_singleton.mpr (.inr (.inr rfl))
  · exact (o.mem_of_mem_word h hword hc).imp_right .inl

theorem parts_orderText {o : OrderItem} (h : o.IsBare) :
    Text.parts " " (PageRequest.orderText o) = [Text.trim o.column, o.direction] := by
  have hspace : ' ' ∉ Text.letters ∪ Text.digits ∪ {'_'} := by
    rw [← Text.isLater_iff]
    decide
  rw [orderText_eq]
  exact Text.parts_intercalate rfl (List.cons_ne_nil _ _) fun word hword hc =>
    hspace (mem_of_mem_word h hword hc)

end OrderItem

namespace Dialect

open PageRequest (orderText orderClause)

/-- What an order clause says. Its words hold no separator, so they can be told apart in it. -/
structure Orders (clause : String) (orders : List OrderItem) : Prop where
  eq_empty_iff : clause = "" ↔ orders = []
  chars : ∀ c ∈ clause.toList, c ∈ Text.letters ∪ Text.digits ∪ {'_', ',', ' '}
  words : orders ≠ [] → (Text.parts ", " clause).map (Text.parts " ") =
    orders.map fun o => [Text.trim o.column, o.direction]

theorem parts_listed_orderText {orders : List OrderItem} (h : ∀ o ∈ orders, o.IsBare)
    (hne : orders ≠ []) :
    Text.parts ", " (listed (orders.map orderText)) = orders.map orderText := by
  have hcomma : ',' ∉ Text.letters ∪ Text.digits ∪ {'_', ' '} := by
    rintro (hlater | hspace)
    · exact absurd ((Text.isLater_iff ',').mpr (.inl hlater)) (by decide)
    · revert hspace
      simp
  refine Text.parts_intercalate rfl (by simpa using hne) fun text htext hc => ?_
  obtain ⟨o, ho, rfl⟩ := List.mem_map.mp htext
  exact hcomma (o.mem_of_mem_orderText (h o ho) hc)

theorem orders_listed {orders : List OrderItem} (h : ∀ o ∈ orders, o.IsBare) :
    Orders (listed (orders.map orderText)) orders where
  eq_empty_iff := listed_orderText_eq_empty_iff
  chars := by
    refine Text.forall_mem_intercalate ?_ fun text htext c hc => ?_
    · simp
    · obtain ⟨o, ho, rfl⟩ := List.mem_map.mp htext
      obtain hlater | rfl | rfl := o.mem_of_mem_orderText (h o ho) hc
      · exact .inl hlater
      · simp
      · simp
  words hne := by
    rw [parts_listed_orderText h hne, List.map_map]
    exact List.map_congr_left fun o ho => o.parts_orderText (h o ho)

theorem find?_of_isBare {orders : List OrderItem} (h : ∀ o ∈ orders, o.IsBare) :
    (orders.find? fun o => !Text.isIdentifier (Text.trim o.column).toList) = none := by
  rw [List.find?_eq_none]
  intro o ho
  rw [o.isBare_iff.mp (h o ho)]
  exact Bool.false_ne_true

theorem orderBy_of_isBare {orders : List OrderItem} (h : ∀ o ∈ orders, o.IsBare) :
    orderBy orders = .ok (listed (orders.map orderText)) := by
  rw [orderBy_eq, find?_of_isBare h]

theorem exists_orderBy_eq_error {orders : List OrderItem} {o : OrderItem} (ho : o ∈ orders)
    (h : ¬o.IsBare) : ∃ cause, orderBy orders = .error (.invalidField cause) := by
  rw [orderBy_eq]
  cases hfind : orders.find? fun o => !Text.isIdentifier (Text.trim o.column).toList with
  | some found => exact ⟨_, rfl⟩
  | none =>
    have hbare := List.find?_eq_none.mp hfind o ho
    rw [Bool.not_eq_true', Bool.not_eq_false] at hbare
    exact absurd (o.isBare_iff.mpr hbare) h

theorem page_of_isBare (d : Dialect) (sql : String) {p : PageRequest}
    (h : ∀ o ∈ p.orders, o.IsBare) :
    d.page sql p = (pageParams p).map fun params => d.finish
      ("SELECT * FROM (" ++ Text.trim sql ++ ") t" ++ orderClause p.orders ++ " LIMIT ? OFFSET ?")
      params := by
  rw [page_eq, orderBy_of_isBare h, bind_ok]
  simp only [intercalate_window]

/-- A clause is refused exactly if one of its columns is no bare identifier. Any other reads back as
the columns with their directions, and it is all that the text of a page takes from the request. -/
theorem orderBy_reads_back (orders : List OrderItem) :
    ((∃ cause, orderBy orders = .error (.invalidField cause)) ↔ ∃ o ∈ orders, ¬o.IsBare) ∧
    ((∀ o ∈ orders, o.IsBare) → ∃ clause, orderBy orders = .ok clause ∧ Orders clause orders ∧
      ∀ (d : Dialect) (sql : String) (p : PageRequest), p.orders = orders →
        d.page sql p = (pageParams p).map fun params => d.finish
          ("SELECT * FROM (" ++ Text.trim sql ++ ") t" ++
            (if clause = "" then "" else " ORDER BY " ++ clause) ++ " LIMIT ? OFFSET ?") params) := by
  refine ⟨⟨fun ⟨cause, hcause⟩ => ?_, fun ⟨o, ho, hbare⟩ => exists_orderBy_eq_error ho hbare⟩,
    fun h => ⟨_, orderBy_of_isBare h, orders_listed h, ?_⟩⟩
  · by_contra hall
    have hok := orderBy_of_isBare fun o ho => by_contra fun hbare => hall ⟨o, ho, hbare⟩
    cases hok.symm.trans hcause
  · rintro d sql p rfl
    rw [page_of_isBare d sql h, orderClause]
    simp only [listed_orderText_eq_empty_iff, List.isEmpty_iff]

theorem orderBy_reads_back_descending :
    (∀ o ∈ [OrderItem.mk " created_at\n" false, ⟨"id", true⟩], o.IsBare) ∧
    orderBy [⟨" created_at\n", false⟩, ⟨"id", true⟩] = .ok "created_at desc, id asc" ∧
    (Text.parts ", " "created_at desc, id asc").map (Text.parts " ") =
      [["created_at", "desc"], ["id", "asc"]] ∧
    ∃ cause, orderBy [⟨"id", true⟩, ⟨"id;--", true⟩] = .error (.invalidField cause) := by
  have hbare : ∀ o ∈ [OrderItem.mk " created_at\n" false, ⟨"id", true⟩], o.IsBare := by
    simp only [OrderItem.isBare_iff]
    decide
  obtain ⟨clause, hclause, hreads, -⟩ := (orderBy_reads_back _).2 hbare
  obtain rfl : "created_at desc, id asc" = clause := Except.ok.inj hclause
  refine ⟨hbare, hclause, hreads.words (List.cons_ne_nil _ _), (orderBy_reads_back _).1.mpr ?_⟩
  refine ⟨⟨"id;--", true⟩, by simp, ?_⟩
  rw [OrderItem.isBare_iff]
  decide

end Dialect

end SqlMapper
