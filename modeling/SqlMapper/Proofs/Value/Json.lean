import SqlMapper.Proofs.Binary.Finite
import SqlMapper.Proofs.Json.Parts
import SqlMapper.Value.Json

/-! JSON read as a bind value and written again. The second reading finds what the first one found,
and the text comes back as it was unless some number was rounded or some range had one bound
only. -/

namespace SqlMapper

theorem Json.Number.isFinite_toDouble (n : Number) : n.toDouble.number.isFinite = true := by
  cases n with
  | integer n lower upper => exact Binary.Double.isFinite_ofInt (by omega)
  | double x finite => exact finite

theorem Json.ofDouble_of_isFinite {x : Binary.Double} (h : x.number.isFinite = true) :
    ofDouble x = .number (.double x h) := by
  rw [ofDouble, dif_pos h]

/-- Whether a bind value keeps a number or an object as it is: a whole number must be a signed
64-bit word, and an object of bounds must have both of them. -/
def Json.isKept : Json → Bool
  | .number (.integer n ..) => n < 0x8000000000000000
  | .object members => members.map Prod.fst != ["start"] && members.map Prod.fst != ["end"]
  | _ => true

namespace SqlValue

open Json

theorem toJson_ofJsonNumber (n : Number) :
    toJson (ofJsonNumber n) =
      .number (if (Json.number n).isKept then n else .double n.toDouble n.isFinite_toDouble) := by
  cases n with
  | integer n lower upper =>
    by_cases h : n < 0x8000000000000000
    · have hn : (Int64.ofInt n).toInt = n := Int64.toInt_ofInt_of_le (by omega) (by omega)
      simp [ofJsonNumber, Number.toInt64?, h, toJson, ofInt64, hn, isKept]
    · rw [ofJsonNumber, Number.toInt64?, if_neg h]
      simp only [toJson, ofDouble_of_isFinite (Number.isFinite_toDouble (.integer n lower upper))]
      simp [isKept, h]
  | double x finite => simp [ofJsonNumber, Number.toInt64?, toJson, ofDouble, finite, isKept,
      Number.toDouble]

theorem ofJson_toJson_ofJsonNumber (n : Number) :
    ofJson (toJson (ofJsonNumber n)) = ofJsonNumber n := by
  rw [toJson_ofJsonNumber, ofJson]
  split
  · rfl
  · rename_i h
    cases n with
    | integer n lower upper =>
      have hn : ¬n < 0x8000000000000000 := by simpa [isKept] using h
      simp [ofJsonNumber, Number.toInt64?, hn, Number.toDouble]
    | double x finite => exact absurd rfl h

theorem ofJson_range (right left : Json) :
    ofJson (.object [("end", right), ("start", left)]) = .between (ofJson left) (ofJson right) := by
  simp [ofJson, areBounds, boundOf]

mutual

theorem ofJson_toJson_ofJson : (j : Json) → ofJson (toJson (ofJson j)) = ofJson j
  | .null => rfl
  | .bool _ => rfl
  | .number n => ofJson_toJson_ofJsonNumber n
  | .string _ => rfl
  | .array items => by
    rw [ofJson, toJson, ofJson, ofJsonItems_toJsonItems items]
  | .object members => by
    rw [ofJson]
    split
    · rw [toJson, ofJson_range, ofJson_toJson_boundOf "start" members,
        ofJson_toJson_boundOf "end" members]
    · rename_i h
      rw [toJson, ofJson, if_neg h]

theorem ofJsonItems_toJsonItems :
    (items : List Json) → ofJsonItems (toJsonItems (ofJsonItems items)) = ofJsonItems items
  | [] => rfl
  | x :: xs => by
    rw [ofJsonItems, toJsonItems, ofJsonItems, ofJson_toJson_ofJson x, ofJsonItems_toJsonItems xs]

theorem ofJson_toJson_boundOf (key : String) :
    (members : List (String × Json)) → ofJson (toJson (boundOf key members)) = boundOf key members
  | [] => rfl
  | (k, x) :: rest => by
    rw [boundOf]
    split
    · exact ofJson_toJson_ofJson x
    · exact ofJson_toJson_boundOf key rest

end

theorem areBounds_iff {members : List (String × Json)} :
    areBounds members = true ↔
      members ≠ [] ∧ ∀ k ∈ members.map Prod.fst, k = "start" ∨ k = "end" := by
  simp [areBounds]

/-- Keys in order leave three ways to name bounds. -/
theorem keys_of_areBounds {members : List (String × Json)} (h : areBounds members = true)
    (ho : (members.map Prod.fst).Pairwise (· < ·)) :
    members.map Prod.fst = ["start"] ∨ members.map Prod.fst = ["end"] ∨
      members.map Prod.fst = ["end", "start"] := by
  obtain ⟨hne, hkeys⟩ := areBounds_iff.mp h
  have hnil : members.map Prod.fst ≠ [] := by simpa using hne
  -- of two neighbours the first is `end` and the second `start`, so that there are no three
  have hlt : ∀ {a b : String}, a = "start" ∨ a = "end" → b = "start" ∨ b = "end" → a < b →
      a = "end" ∧ b = "start" := by
    rintro a b (rfl | rfl) (rfl | rfl) hab
    · exact absurd hab (by decide)
    · exact absurd hab (by decide)
    · exact ⟨rfl, rfl⟩
    · exact absurd hab (by decide)
  generalize members.map Prod.fst = keys at hkeys ho hnil
  match keys with
  | [] => exact absurd rfl hnil
  | [a] => simpa using hkeys a List.mem_cons_self
  | [a, b] =>
    obtain ⟨rfl, rfl⟩ := hlt (hkeys a (by simp)) (hkeys b (by simp)) (by simpa using ho)
    exact .inr (.inr rfl)
  | a :: b :: c :: rest =>
    have hab := hlt (hkeys a (by simp)) (hkeys b (by simp)) (by simp_all)
    have hbc := hlt (hkeys b (by simp)) (hkeys c (by simp)) (by simp_all)
    exact absurd (hab.2.symm.trans hbc.1) (by decide)

theorem isKept_of_not_areBounds {members : List (String × Json)} (h : ¬areBounds members = true) :
    (Json.object members).isKept = true := by
  have hkeys : ∀ key, key = "start" ∨ key = "end" → members.map Prod.fst ≠ [key] := by
    intro key hkey hm
    refine h (areBounds_iff.mpr ⟨fun hnil => by simp [hnil] at hm, fun k hk => ?_⟩)
    rw [hm, List.mem_singleton] at hk
    exact hk ▸ hkey
  simp [isKept, hkeys]

mutual

theorem toJson_ofJson_eq_iff :
    (j : Json) → j.isOrdered = true → (toJson (ofJson j) = j ↔ j.every areBounds isKept = true)
  | .null, _ => by simp [ofJson, toJson, every, isKept]
  | .bool _, _ => by simp [ofJson, toJson, every, isKept]
  | .number n, _ => by
    have hevery : (Json.number n).every areBounds isKept = (Json.number n).isKept := by simp [every]
    rw [ofJson, toJson_ofJsonNumber, hevery]
    split
    · exact iff_of_true rfl ‹_›
    · rename_i h
      refine iff_of_false ?_ h
      cases n with
      | integer n lower upper => simp
      | double x finite => exact absurd rfl h
  | .string _, _ => by simp [ofJson, toJson, every, isKept]
  | .array items, ho => by
    have hitems := toJsonItems_ofJsonItems_eq_iff items (isOrdered_array.mp ho)
    simp [ofJson, toJson, every, isKept, hitems, everyItem_iff]
  | .object members, ho => by
    obtain ⟨hkeys, hinner⟩ := isOrdered_object.mp ho
    have hbound := toJson_ofJson_bound_eq_iff members hinner
    by_cases h : areBounds members = true
    · rcases keys_of_areBounds h hkeys with hk | hk | hk
      · obtain ⟨⟨k, x⟩, rfl, rfl⟩ := List.map_eq_singleton_iff.mp hk
        simp [ofJson, h, toJson, every, isKept]
      · obtain ⟨⟨k, x⟩, rfl, rfl⟩ := List.map_eq_singleton_iff.mp hk
        simp [ofJson, h, toJson, every, isKept]
      · obtain ⟨⟨_, right⟩, rest, rfl, rfl, hrest⟩ := List.map_eq_cons_iff.mp hk
        obtain ⟨⟨_, left⟩, rfl, rfl⟩ := List.map_eq_singleton_iff.mp hrest
        have hright := hbound _ List.mem_cons_self
        have hleft := hbound _ (List.mem_cons_of_mem _ List.mem_cons_self)
        rw [ofJson_range, toJson]
        simp [every, isKept, areBounds, everyMember, hright, hleft]
    · rw [ofJson, if_neg h, toJson]
      refine iff_of_true rfl ?_
      simp [every, h, isKept_of_not_areBounds h]

theorem toJsonItems_ofJsonItems_eq_iff :
    (items : List Json) → (∀ x ∈ items, x.isOrdered = true) →
      (toJsonItems (ofJsonItems items) = items ↔ ∀ x ∈ items, x.every areBounds isKept = true)
  | [], _ => by simp [ofJsonItems, toJsonItems]
  | x :: xs, ho => by
    have hx := toJson_ofJson_eq_iff x (ho x List.mem_cons_self)
    have hxs := toJsonItems_ofJsonItems_eq_iff xs fun y hy => ho y (List.mem_cons_of_mem x hy)
    simp [ofJsonItems, toJsonItems, hx, hxs]

theorem toJson_ofJson_bound_eq_iff :
    (members : List (String × Json)) → (∀ m ∈ members, m.2.isOrdered = true) →
      ∀ m ∈ members, toJson (ofJson m.2) = m.2 ↔ m.2.every areBounds isKept = true
  | [], _ => nofun
  | (k, x) :: rest, ho => by
    have hx := toJson_ofJson_eq_iff x (ho (k, x) List.mem_cons_self)
    have hrest := toJson_ofJson_bound_eq_iff rest fun m hm => ho m (List.mem_cons_of_mem _ hm)
    intro m hm
    rcases List.mem_cons.mp hm with rfl | hm
    · exact hx
    · exact hrest m hm

end

/-- A value read from JSON is read again from what it is written as. The JSON itself, with its
members in order, comes back if and only if what is reached through arrays and ranges has no whole
number that is not signed and no range of one bound. -/
theorem toJson_ofJson_normal (j : Json) :
    ofJson (toJson (ofJson j)) = ofJson j ∧
      (j.isOrdered = true → (toJson (ofJson j) = j ↔ j.every areBounds isKept = true)) :=
  ⟨ofJson_toJson_ofJson j, toJson_ofJson_eq_iff j⟩

/-- A large number within an object that is no range is kept, and a missing bound becomes null. -/
theorem toJson_ofJson_normal_ranges :
    let large : Json := .number (.integer 0xffffffffffffffff (by decide) (by decide))
    let kept : Json := .array [.object [("end", .bool true), ("start", .string "a")],
      .object [("id", large), ("start", .null)]]
    let halved : Json := .array [.object [("start", .object [("end", large)])]]
    (kept.isOrdered = true ∧ toJson (ofJson kept) = kept) ∧
      halved.isOrdered = true ∧ ofJson (toJson (ofJson halved)) = ofJson halved ∧
      toJson (ofJson halved) ≠ halved := by
  intro large kept halved
  have hkept : kept.isOrdered = true := by decide
  have hhalved : halved.isOrdered = true := by decide
  obtain ⟨hagain, hiff⟩ := toJson_ofJson_normal halved
  obtain ⟨-, hkeep⟩ := toJson_ofJson_normal kept
  exact ⟨⟨hkept, (hkeep hkept).mpr (by decide)⟩, hhalved, hagain,
    (not_congr (hiff hhalved)).mpr (by decide)⟩

end SqlValue

end SqlMapper
