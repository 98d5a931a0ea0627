import Mathlib.Algebra.Order.Ring.Int
import SqlMapper.Uuid

/-! The text of an identifier and the way back. Its five groups are hexadecimal digits only, so that
the hyphens between them are the places where it is split again. -/

namespace SqlMapper.Uuid

theorem hexValue?_digitChar : ∀ d < 16, hexValue? (Nat.digitChar d) = some d := by
  decide

theorem exists_of_mem_toDigits {n : Nat} {c : Char} (h : c ∈ Nat.toDigits 16 n) :
    ∃ d < 16, Nat.digitChar d = c := by
  induction n using Nat.strongRecOn with
  | ind n ih =>
    rw [Nat.toDigits_eq_if (by decide)] at h
    split at h
    · rename_i hn
      exact ⟨n, hn, (List.mem_singleton.mp h).symm⟩
    · rcases List.mem_append.mp h with h | h
      · exact ih (n / 16) (by omega) h
      · exact ⟨n % 16, by omega, (List.mem_singleton.mp h).symm⟩

theorem exists_of_mem_hexDigits {u : Uuid} {c : Char} (h : c ∈ u.hexDigits) :
    ∃ d < 16, Nat.digitChar d = c := by
  rcases List.mem_append.mp h with h | h
  · exact ⟨0, by decide, (List.eq_of_mem_replicate h).symm⟩
  · exact exists_of_mem_toDigits h

theorem length_hexDigits (u : Uuid) : u.hexDigits.length = 32 := by
  have hlt : u.bits.toNat < 16 ^ 32 := u.bits.isLt
  have hle := (Nat.length_toDigits_le_iff (by decide) (by decide)).mpr hlt
  rw [hexDigits, List.length_leftpad]
  omega

/-- The number that hexadecimal digits stand for. -/
def hexNumber? (cs : List Char) : Option Nat :=
  (cs.mapM hexValue?).map fun ds => ds.foldl (fun n d => n * 16 + d) 0

theorem hexNumber?_zero_cons (cs : List Char) : hexNumber? ('0' :: cs) = hexNumber? cs := by
  have hzero : hexValue? '0' = some 0 := by decide
  rw [hexNumber?, List.mapM_cons, hzero, hexNumber?]
  cases cs.mapM hexValue? <;> rfl

theorem hexNumber?_concat {cs : List Char} {n d : Nat} (h : hexNumber? cs = some n) (hd : d < 16) :
    hexNumber? (cs ++ [Nat.digitChar d]) = some (n * 16 + d) := by
  obtain ⟨ds, hds, rfl⟩ := Option.map_eq_some_iff.mp h
  simp [hexNumber?, hds, hexValue?_digitChar d hd]

theorem hexNumber?_toDigits (n : Nat) : hexNumber? (Nat.toDigits 16 n) = some n := by
  induction n using Nat.strongRecOn with
  | ind n ih =>
    rw [Nat.toDigits_eq_if (by decide)]
    split
    · rename_i hn
      simp [hexNumber?, hexValue?_digitChar n hn]
    · rw [hexNumber?_concat (ih (n / 16) (by omega)) (Nat.mod_lt n (by decide))]
      exact congrArg some (Nat.div_add_mod' n 16)

theorem ofHex?_hexDigits (u : Uuid) : ofHex? u.hexDigits = some u := by
  have hpadded (k : Nat) : hexNumber? (List.replicate k '0' ++ Nat.toDigits 16 u.bits.toNat) =
      some u.bits.toNat := by
    induction k with
    | zero => exact hexNumber?_toDigits u.bits.toNat
    | succ k ih => rw [List.replicate_succ, List.cons_append, hexNumber?_zero_cons, ih]
  have hnumber : hexNumber? u.hexDigits = some u.bits.toNat := hpadded _
  obtain ⟨ds, hds, hn⟩ := Option.map_eq_some_iff.mp hnumber
  rw [ofHex?, if_pos u.length_hexDigits, hds, Option.map_some, hn, BitVec.ofNat_toNat,
    BitVec.setWidth_eq]

theorem flatten_cut {ns : List Nat} {cs : List Char} (h : cs.length ≤ ns.sum) :
    (cut ns cs).flatten = cs := by
  induction ns generalizing cs with
  | nil => simpa [cut] using h
  | cons n ns ih =>
    have hrest : (cs.drop n).length ≤ ns.sum := by
      simp only [List.sum_cons, List.length_drop] at h ⊢
      omega
    rw [cut, List.flatten_cons, ih hrest, List.take_append_drop]

theorem length_cut {ns : List Nat} {cs : List Char} (h : ns.sum ≤ cs.length) :
    (cut ns cs).map List.length = ns := by
  induction ns generalizing cs with
  | nil => rfl
  | cons n ns ih =>
    rw [List.sum_cons] at h
    have hrest : ns.sum ≤ (cs.drop n).length := by
      simp only [List.length_drop]
      omega
    rw [cut, List.map_cons, ih hrest, List.length_take, Nat.min_eq_left (by omega)]

theorem mem_of_mem_cut {ns : List Nat} {cs group : List Char} {c : Char}
    (hg : group ∈ cut ns cs) (hc : c ∈ group) : c ∈ cs := by
  induction ns generalizing cs with
  | nil => simp [cut] at hg
  | cons n ns ih =>
    rcases List.mem_cons.mp hg with rfl | hg
    · exact List.mem_of_mem_take hc
    · exact List.mem_of_mem_drop (ih hg)

theorem toList_toText (u : Uuid) :
    u.toText.toList = ['-'].intercalate (cut groupLengths u.hexDigits) :=
  String.toList_ofList

theorem ofGroups?_toText (u : Uuid) : ofGroups? u.toText.toList = some u := by
  have hyphen : ∀ d < 16, Nat.digitChar d ≠ '-' := by decide
  have hgroups : ∀ group ∈ cut groupLengths u.hexDigits, '-' ∉ group := by
    intro group hg hc
    obtain ⟨d, hd, he⟩ := exists_of_mem_hexDigits (mem_of_mem_cut hg hc)
    exact hyphen d hd he
  have hsum : groupLengths.sum = u.hexDigits.length := u.length_hexDigits.symm
  rw [ofGroups?, toList_toText, List.splitOn_intercalate '-' hgroups (List.cons_ne_nil _ _)]
  rw [if_pos (length_cut (Nat.le_of_eq hsum)), flatten_cut (Nat.le_of_eq hsum.symm),
    ofHex?_hexDigits]

theorem head_toText (u : Uuid) : ∃ d < 16, ∃ rest, u.toText.toList = Nat.digitChar d :: rest := by
  have hlength := u.length_hexDigits
  have hmem (c : Char) (hc : c ∈ u.hexDigits) := exists_of_mem_hexDigits hc
  rw [toList_toText]
  cases hu : u.hexDigits with
  | nil => simp [hu] at hlength
  | cons c cs =>
    obtain ⟨d, hd, rfl⟩ := hmem c (hu ▸ List.mem_cons_self)
    exact ⟨d, hd, _, rfl⟩

theorem unwrap?_toText (u : Uuid) : unwrap? u.toText.toList = none := by
  obtain ⟨d, hd, rest, htext⟩ := u.head_toText
  have hfirst : ∀ d < 16,
      Nat.digitChar d ≠ '{' ∧ Nat.digitChar d ≠ 'u' ∧ Nat.digitChar d ≠ 'U' := by
    decide
  obtain ⟨hbrace, hlower, hupper⟩ := hfirst d hd
  rw [htext, unwrap?, List.take_succ_cons, if_neg]
  · rintro (h | h)
    · exact hlower (List.cons.inj h).1
    · exact hupper (List.cons.inj h).1
  · intro rest' he
    exact hbrace (List.cons.inj he).1

theorem length_toText (u : Uuid) : u.toText.toList.length = 36 := by
  have hlength := u.length_hexDigits
  simp only [toList_toText, groupLengths, cut, List.intercalate_cons_cons,
    List.intercalate_singleton, List.length_append, List.length_take, List.length_drop,
    List.length_singleton, hlength]
  omega

theorem read_toText (u : Uuid) : read u.toText = .ok u := by
  -- the plain digits are tried before the groups, but with the hyphens there are too many
  have hhex : ofHex? u.toText.toList = none := if_neg (by simp [length_toText])
  simp only [read, u.unwrap?_toText, hhex, Option.none_or, u.ofGroups?_toText]

end SqlMapper.Uuid
