import SqlMapper.Json.Syntax
import SqlMapper.Proofs.Json.Parts

/-! Members in the order of their keys. Adding one keeps the order, so that every value read from a
text is ordered, and members in order come out of it as they went in. -/

namespace SqlMapper.Json

theorem insertMember_last {key : String} {sorted : List (String × Json)} (value : Json)
    (h : ∀ m ∈ sorted, m.1 < key) : insertMember key value sorted = sorted ++ [(key, value)] := by
  induction sorted with
  | nil => rfl
  | cons m sorted ih =>
    obtain ⟨hm, hs⟩ := List.forall_mem_cons.mp h
    have hne : ¬key = m.1 := fun he => String.ne_of_lt hm he.symm
    rw [insertMember, if_neg (String.lt_asymm hm), if_neg hne, ih hs, List.cons_append]

theorem foldl_insertMember {sorted members : List (String × Json)}
    (h : ((sorted ++ members).map Prod.fst).Pairwise (· < ·)) :
    members.foldl (fun sorted m => insertMember m.1 m.2 sorted) sorted = sorted ++ members := by
  induction members generalizing sorted with
  | nil => exact (List.append_nil sorted).symm
  | cons m members ih =>
    have hsplit : sorted ++ m :: members = sorted ++ [m] ++ members := by simp
    have hlast : ∀ e ∈ sorted, e.1 < m.1 := by
      rw [List.map_append, List.pairwise_append] at h
      exact fun e he => h.2.2 e.1 (List.mem_map_of_mem he) m.1 (by simp)
    rw [List.foldl_cons, insertMember_last m.2 hlast, ih (hsplit ▸ h), hsplit]

theorem mem_insertMember {key : String} {value : Json} {sorted : List (String × Json)}
    {m : String × Json} (h : m ∈ insertMember key value sorted) :
    m = (key, value) ∨ m ∈ sorted := by
  induction sorted with
  | nil => exact .inl (List.mem_singleton.mp h)
  | cons e sorted ih =>
    rw [insertMember] at h
    split at h
    · exact (List.mem_cons.mp h).imp_right id
    · split at h
      · exact (List.mem_cons.mp h).imp_right (List.mem_cons_of_mem e)
      · rcases List.mem_cons.mp h with rfl | h
        · exact .inr List.mem_cons_self
        · exact (ih h).imp_right (List.mem_cons_of_mem e)

theorem pairwise_insertMember (key : String) (value : Json) {sorted : List (String × Json)}
    (h : (sorted.map Prod.fst).Pairwise (· < ·)) :
    ((insertMember key value sorted).map Prod.fst).Pairwise (· < ·) := by
  induction sorted with
  | nil => exact List.pairwise_singleton _ key
  | cons m sorted ih =>
    obtain ⟨hfirst, hrest⟩ := List.pairwise_cons.mp h
    rw [insertMember]
    split
    · rename_i hlt
      refine List.pairwise_cons.mpr ⟨fun k hk => ?_, h⟩
      rcases List.mem_cons.mp hk with rfl | hk
      · exact hlt
      · exact String.lt_trans hlt (hfirst k hk)
    · split
      · rename_i he
        exact List.pairwise_cons.mpr ⟨fun k hk => he ▸ hfirst k hk, hrest⟩
      · rename_i hge hne
        refine List.pairwise_cons.mpr ⟨fun k hk => ?_, ih hrest⟩
        obtain ⟨e, he, rfl⟩ := List.mem_map.mp hk
        rcases mem_insertMember he with rfl | he
        · exact Std.lt_of_le_of_ne (String.not_lt.mp hge) fun he => hne he.symm
        · exact hfirst e.1 (List.mem_map_of_mem he)

theorem isOrdered_ofMembers {members : List (String × Json)}
    (h : ∀ m ∈ members, m.2.isOrdered = true) : (ofMembers members).isOrdered = true := by
  have hfold (sorted : List (String × Json)) (hs : (sorted.map Prod.fst).Pairwise (· < ·))
      (hv : ∀ m ∈ sorted, m.2.isOrdered = true) :
      (Json.object (members.foldl (fun sorted m => insertMember m.1 m.2 sorted) sorted)).isOrdered =
        true := by
    induction members generalizing sorted with
    | nil => exact isOrdered_object.mpr ⟨hs, hv⟩
    | cons m members ih =>
      obtain ⟨hm, hmembers⟩ := List.forall_mem_cons.mp h
      refine ih hmembers _ (pairwise_insertMember m.1 m.2 hs) fun e he => ?_
      rcases mem_insertMember he with rfl | he
      · exact hm
      · exact hv e he
  exact hfold [] .nil (by simp)

theorem ofMembers_of_ordered {members : List (String × Json)}
    (h : (members.map Prod.fst).Pairwise (· < ·)) : ofMembers members = .object members := by
  rw [ofMembers, foldl_insertMember (by simpa using h), List.nil_append]

namespace Source

mutual

theorem isOrdered_of_toJson? : (x : Source) → ∀ {depth : Nat} {j : Json},
    x.toJson? depth = some j → j.isOrdered = true
  | .null, _, _, h => Option.some.inj h ▸ rfl
  | .bool _, _, _, h => Option.some.inj h ▸ rfl
  | .number _, _, _, h => by
    obtain ⟨n, -, rfl⟩ := Option.map_eq_some_iff.mp h
    rfl
  | .string _, _, _, h => by
    obtain ⟨s, -, rfl⟩ := Option.map_eq_some_iff.mp h
    rfl
  | .array _, 0, _, h => nomatch h
  | .array xs, _ + 1, _, h => by
    obtain ⟨items, hs, rfl⟩ := Option.map_eq_some_iff.mp h
    exact isOrdered_array.mpr (isOrdered_of_itemsToJson? xs hs)
  | .object _, 0, _, h => nomatch h
  | .object xs, _ + 1, _, h => by
    obtain ⟨members, hs, rfl⟩ := Option.map_eq_some_iff.mp h
    exact isOrdered_ofMembers (isOrdered_of_membersToJson? xs hs)

theorem isOrdered_of_itemsToJson? : (xs : List Source) → ∀ {depth : Nat} {items : List Json},
    itemsToJson? xs depth = some items → ∀ j ∈ items, j.isOrdered = true
  | [], _, _, h => by
    obtain rfl := Option.some.inj h
    simp
  | x :: xs, _, _, h => by
    obtain ⟨j, hj, h⟩ := Option.bind_eq_some_iff.mp h
    obtain ⟨items, hs, h⟩ := Option.bind_eq_some_iff.mp h
    obtain rfl := Option.some.inj h
    exact List.forall_mem_cons.mpr ⟨isOrdered_of_toJson? x hj, isOrdered_of_itemsToJson? xs hs⟩

theorem isOrdered_of_membersToJson? : (xs : List (Option String × Source)) →
    ∀ {depth : Nat} {members : List (String × Json)}, membersToJson? xs depth = some members →
      ∀ m ∈ members, m.2.isOrdered = true
  | [], _, _, h => by
    obtain rfl := Option.some.inj h
    simp
  | (_, x) :: xs, _, _, h => by
    obtain ⟨key, -, h⟩ := Option.bind_eq_some_iff.mp h
    obtain ⟨j, hj, h⟩ := Option.bind_eq_some_iff.mp h
    obtain ⟨members, hs, h⟩ := Option.bind_eq_some_iff.mp h
    obtain rfl := Option.some.inj h
    exact List.forall_mem_cons.mpr ⟨isOrdered_of_toJson? x hj, isOrdered_of_membersToJson? xs hs⟩

end

end Source

/-- Whatever a text holds, its objects have their members in order. -/
theorem isOrdered_of_read {s : String} {j : Json} (h : read s = .ok j) : j.isOrdered = true := by
  rw [read] at h
  split at h
  · rename_i found hs
    obtain rfl := Except.ok.inj h
    obtain ⟨x, -, hx⟩ := Option.bind_eq_some_iff.mp hs
    exact Source.isOrdered_of_toJson? x hx
  · simp at h

end SqlMapper.Json
