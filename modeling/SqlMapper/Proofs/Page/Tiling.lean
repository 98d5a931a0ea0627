import Mathlib.Order.Interval.Set.Defs
import SqlMapper.Proofs.Statement.Order

/-! The pages of a result as windows on its rows. They tile the rows, and none of them is out of
reach of the words that count rows. -/

namespace SqlMapper

namespace Page

/-- The rows of one page, all pages being full. -/
def window (p : Page α) (number : UInt64) : Set Nat :=
  Set.Ico ((number.toNat - 1) * p.size.toNat) (number.toNat * p.size.toNat)

section Tiling

variable {p : Page α} (hsize : 1 ≤ p.size)
include hsize

theorem one_le_size : 1 ≤ p.size.toNat := UInt64.le_iff_toNat_le.mp hsize

theorem count_toNat : p.count.toNat = (p.total.toNat + p.size.toNat - 1) / p.size.toNat := by
  have hone := one_le_size hsize
  have hne : p.size ≠ 0 := by
    rintro hzero
    simp [hzero] at hone
  have hle : (p.total.toNat + p.size.toNat - 1) / p.size.toNat ≤ p.total.toNat := by
    rw [Nat.div_le_iff_le_mul_add_pred hone]
    have hmul := Nat.le_mul_of_pos_left p.total.toNat hone
    omega
  rw [count, if_neg hne]
  exact UInt64.toNat_ofNat_of_lt' (Nat.lt_of_le_of_lt hle p.total.toNat_lt)

/-- A page is among those counted exactly if it begins before the last row ends. -/
theorem le_count_iff {number : UInt64} (hnumber : 1 ≤ number) :
    number ≤ p.count ↔ (number.toNat - 1) * p.size.toNat < p.total.toNat := by
  have hone := one_le_size hsize
  have hpos : 1 ≤ number.toNat := UInt64.le_iff_toNat_le.mp hnumber
  obtain ⟨before, hbefore⟩ : ∃ before, number.toNat = before + 1 := ⟨number.toNat - 1, by omega⟩
  rw [UInt64.le_iff_toNat_le, count_toNat hsize, Nat.le_div_iff_mul_le hone, hbefore,
    Nat.succ_mul, Nat.add_sub_cancel]
  omega

theorem mem_window_iff {number : UInt64} (hnumber : 1 ≤ number) {row : Nat} :
    row ∈ p.window number ↔ number.toNat = row / p.size.toNat + 1 := by
  have hone := one_le_size hsize
  have hpos : 1 ≤ number.toNat := UInt64.le_iff_toNat_le.mp hnumber
  rw [window, Set.mem_Ico, ← Nat.le_div_iff_mul_le hone, ← Nat.div_lt_iff_lt_mul hone]
  omega

theorem existsUnique_window {row : Nat} (hrow : row < p.total.toNat) :
    ∃! number : UInt64, 1 ≤ number ∧ number ≤ p.count ∧ row ∈ p.window number := by
  have hdiv : row / p.size.toNat ≤ row := Nat.div_le_self row _
  have htoNat : (UInt64.ofNat (row / p.size.toNat + 1)).toNat = row / p.size.toNat + 1 :=
    UInt64.toNat_ofNat_of_lt' (Nat.lt_of_le_of_lt (by omega) p.total.toNat_lt)
  have hfirst : 1 ≤ UInt64.ofNat (row / p.size.toNat + 1) := by
    rw [UInt64.le_iff_toNat_le, htoNat]
    exact Nat.le_add_left 1 _
  have hcount : UInt64.ofNat (row / p.size.toNat + 1) ≤ p.count := by
    rw [le_count_iff hsize hfirst, htoNat, Nat.add_sub_cancel]
    exact Nat.lt_of_le_of_lt (Nat.div_mul_le_self row _) hrow
  refine ⟨_, ⟨hfirst, hcount, (mem_window_iff hsize hfirst).mpr htoNat⟩, ?_⟩
  rintro number ⟨hnumber, -, hwindow⟩
  exact UInt64.toNat_inj.mp (((mem_window_iff hsize hnumber).mp hwindow).trans htoNat.symm)

end Tiling

end Page

namespace PageRequest

theorem before_eq (p : PageRequest) :
    p.before = (max p.current.toNat 1 - 1) * p.size.toNat := by
  rw [before, number_toNat]

theorem before_of_one_le {number : UInt64} (h : 1 ≤ number) (size : UInt64)
    (orders : List OrderItem) :
    before ⟨number, size, orders⟩ = (number.toNat - 1) * size.toNat := by
  have hmax : max number.toNat 1 = number.toNat := Nat.max_eq_left (UInt64.le_iff_toNat_le.mp h)
  rw [before_eq, hmax]

theorem offset?_eq_none_iff (p : PageRequest) :
    p.offset? = none ↔ 0xffffffffffffffff < p.before := by
  rw [offset?, ← before]
  by_cases h : p.before < 0x10000000000000000
  · rw [if_pos h]
    refine iff_of_false (Option.some_ne_none _) ?_
    omega
  · rw [if_neg h]
    refine iff_of_true rfl ?_
    omega

theorem exists_offset? {p : PageRequest} (h : p.before < 0x10000000000000000) :
    ∃ rows, p.offset? = some rows ∧ rows.toNat = p.before := by
  rw [offset?, ← before, if_pos h]
  exact ⟨_, rfl, UInt64.toNat_ofNat_of_lt' h⟩

end PageRequest

/-- Every row is on exactly one of the pages that are counted, and every one of these begins before
the last row ends. Its offset is a word, the same on the request as on the page, and within the
signed words it can be bound. A request has no offset exactly if its offset exceeds a word. -/
theorem pages_tile (page : Page α) (hsize : 1 ≤ page.size) :
    (∀ row < page.total.toNat,
      ∃! number : UInt64, 1 ≤ number ∧ number ≤ page.count ∧ row ∈ page.window number) ∧
    (∀ number : UInt64, 1 ≤ number → number ≤ page.count →
      (number.toNat - 1) * page.size.toNat < page.total.toNat ∧
      (∀ orders, ∃ rows, (PageRequest.mk number page.size orders).offset? = some rows ∧
        rows.toNat = (number.toNat - 1) * page.size.toNat ∧
        rows = { page with current := number }.offset) ∧
      (page.total.toNat ≤ 0x7fffffffffffffff → page.size.toNat ≤ 0x7fffffffffffffff →
        ∀ (d : Dialect) (sql : String) (orders : List OrderItem), (∀ o ∈ orders, o.IsBare) →
          ∃ st, d.page sql ⟨number, page.size, orders⟩ = .ok st ∧
            st.params = [.bigint (.ofNat page.size.toNat),
              .bigint (.ofNat ((number.toNat - 1) * page.size.toNat))])) ∧
    ∀ p : PageRequest,
      p.offset? = none ↔ 0xffffffffffffffff < (max p.current.toNat 1 - 1) * p.size.toNat := by
  refine ⟨fun row => Page.existsUnique_window hsize, fun number hnumber hcount => ?_, fun p => ?_⟩
  · have hbegins := (Page.le_count_iff hsize hnumber).mp hcount
    have hword := Nat.lt_trans hbegins page.total.toNat_lt
    refine ⟨hbegins, fun orders => ?_, fun htotal hbound d sql orders hbare => ?_⟩
    · have hbefore := PageRequest.before_of_one_le hnumber page.size orders
      obtain ⟨rows, hrows, htoNat⟩ := PageRequest.exists_offset? (hbefore ▸ hword)
      have hoffset : { page with current := number }.offset.toNat = _ := Page.offset_toNat hword
      exact ⟨rows, hrows, htoNat.trans hbefore,
        UInt64.toNat_inj.mp ((htoNat.trans hbefore).trans hoffset.symm)⟩
    · have hbefore := PageRequest.before_of_one_le hnumber page.size orders
      have hsigned : page.size.toNat < 0x8000000000000000 ∧
          (number.toNat - 1) * page.size.toNat < 0x8000000000000000 := by omega
      rw [Dialect.page_of_isBare d sql hbare, Dialect.pageParams_eq, hbefore, if_pos hsigned, map_ok]
      exact ⟨_, rfl, rfl⟩
  · rw [p.offset?_eq_none_iff, p.before_eq]

/-- As many rows as can be told apart by signed words, on two pages. -/
def greatestTwo : Page Unit := ⟨0x7fffffffffffffff, 0x4000000000000000, 1, []⟩

theorem pages_tile_greatestTwo :
    1 ≤ greatestTwo.size ∧ greatestTwo.count = 2 ∧
    (∃! number : UInt64,
      1 ≤ number ∧ number ≤ greatestTwo.count ∧ 0x7ffffffffffffffe ∈ greatestTwo.window number) ∧
    (∃ st, Dialect.mysql.page "SELECT id FROM account" ⟨2, greatestTwo.size, [⟨"id", true⟩]⟩ =
      .ok st ∧ st.params = [.bigint 0x4000000000000000, .bigint 0x4000000000000000]) ∧
    (PageRequest.mk 5 greatestTwo.size []).offset? = none := by
  have hsize : 1 ≤ greatestTwo.size := by decide
  have hbare : ∀ o ∈ [OrderItem.mk "id" true], o.IsBare := by
    simp only [OrderItem.isBare_iff]
    decide
  obtain ⟨hrows, hpages, hnone⟩ := pages_tile greatestTwo hsize
  obtain ⟨-, -, hbound⟩ := hpages 2 (by decide) (by decide)
  exact ⟨hsize, by decide, hrows _ (by decide),
    hbound (by decide) (by decide) .mysql _ _ hbare, (hnone _).mpr (by decide)⟩

end SqlMapper
