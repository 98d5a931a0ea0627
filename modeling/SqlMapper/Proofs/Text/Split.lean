import Mathlib.Data.String.Basic
import SqlMapper.Text.Blank

/-! Texts that are joined with a separator, and split at it again. A part that does not hold the
first character of the separator comes back as it is. At a single character, a text is split as the
list of its characters is. -/

namespace SqlMapper.Text

open String.Slice.Pattern String.Slice.Pattern.Model

/-- The parts of a text between the places where a separator stands. -/
def parts (separator text : String) : List String :=
  (text.split separator).toList.map String.Slice.copy

section Positions

variable {separator : String} {c : Char} {s : String.Slice} {start stop : s.Pos}
  {front part rest : String}

theorem not_matchesAt_of_lt (hc : separator.toList.head? = some c) (hpart : c ∉ part.toList)
    (hstart : start.Splits front (part ++ rest)) (hstop : stop.Splits (front ++ part) rest)
    {p : s.Pos} (hle : start ≤ p) (hlt : p < stop) : ¬MatchesAt separator p := by
  rw [ForwardStringSearcher.matchesAt_iff_splits]
  rintro ⟨before, after, hp⟩
  obtain ⟨skipped, rfl, -⟩ := (hstart.le_iff_exists_eq_append hp).mp hle
  obtain ⟨left, hleft, hfront, hfound⟩ := (hp.lt_iff_exists_eq_append hstop).mp hlt
  have hne : left.toList ≠ [] := by simpa using hleft
  have hhead : left.toList.head? = some c := by
    have htexts := congrArg (List.head? ∘ String.toList) hfound
    simpa [hc, List.head?_eq_some_head hne] using htexts.symm
  have hsplit : part = skipped ++ left := by simpa [String.append_assoc] using hfront
  rw [hsplit, String.toList_append] at hpart
  exact hpart (List.mem_append_right _ (List.mem_of_head? hhead))

theorem copy_subslice (hstart : start.Splits front (part ++ rest))
    (hstop : stop.Splits (front ++ part) rest) (hle : start ≤ stop) :
    (s.subslice start stop hle).copy = part := by
  obtain ⟨_, hcopy⟩ := String.Slice.copy_slice_eq_iff_splits.mpr ⟨front, rest, hstart, hstop⟩
  rwa [String.Slice.Subslice.copy_eq, Function.comp_apply, String.Slice.toSlice_subslice]

/-- Where the separator cannot begin, the search goes on to the end of the part. -/
theorem split_eq_split_stop [StrictPatternModel separator] (hc : separator.toList.head? = some c)
    (hpart : c ∉ part.toList) (hstart : start.Splits front (part ++ rest))
    (hstop : stop.Splits (front ++ part) rest) (hle : start ≤ stop) :
    Model.split separator start start start.le_refl = Model.split separator start stop hle :=
  split_eq_of_not_matchesAt stop hle fun _ => not_matchesAt_of_lt hc hpart hstart hstop

end Positions

theorem map_copy_split {separator : String} [StrictPatternModel separator] {c : Char}
    (hc : separator.toList.head? = some c) {s : String.Slice} {first : String} {others : List String}
    (h : ∀ part ∈ first :: others, c ∉ part.toList) {front : String} {start : s.Pos}
    (hstart : start.Splits front (separator.intercalate (first :: others))) :
    (Model.split separator start start start.le_refl).map String.Slice.Subslice.copy =
      first :: others := by
  have hfirst := h first List.mem_cons_self
  induction others generalizing first front start with
  | nil =>
    rw [String.intercalate_singleton] at hstart
    have hend : s.endPos.Splits (front ++ first) "" := hstart.eq_append ▸ s.splits_endPos
    rw [← String.append_empty (s := first)] at hstart
    rw [split_eq_split_stop hc hfirst hstart hend start.le_endPos, split_endPos, List.map_singleton,
      copy_subslice hstart hend]
  | cons next others ih =>
    rw [String.intercalate_cons_cons, String.append_assoc] at hstart
    have hstop := hstart.splits_rotateRight
    have hnext := hstop.splits_rotateRight
    have hmatch : IsLongestMatchAt separator hstart.rotateRight hstop.rotateRight :=
      ForwardStringSearcher.isLongestMatchAt_iff_splits.mpr ⟨_, _, hstop, hnext⟩
    have hle : start ≤ hstart.rotateRight :=
      (hstart.le_iff_exists_eq_append hstop).mpr ⟨first, rfl, rfl⟩
    have hothers := fun part hp => h part (List.mem_cons_of_mem first hp)
    rw [split_eq_split_stop hc hfirst hstart hstop hle, split_eq_of_isLongestMatchAt hmatch,
      List.map_cons, copy_subslice hstart hstop, ih hothers hnext (hothers next List.mem_cons_self)]

theorem parts_intercalate {separator : String} {c : Char} (hc : separator.toList.head? = some c)
    {texts : List String} (hne : texts ≠ []) (h : ∀ text ∈ texts, c ∉ text.toList) :
    parts separator (separator.intercalate texts) = texts := by
  have hseparator : separator ≠ "" := by
    rintro rfl
    simp at hc
  have := ForwardStringSearcher.strictPatternModel hseparator
  have := ForwardStringSearcher.lawfulToForwardSearcherModel hseparator
  obtain ⟨first, others, rfl⟩ := List.exists_cons_of_ne_nil hne
  have hstart := (separator.intercalate (first :: others)).toSlice.splits_startPos
  rw [String.copy_toSlice] at hstart
  rw [parts, String.split, String.Slice.split, Std.Iter.toList_map,
    toList_splitToSubslice_eq_modelSplit, List.map_map, ← String.Slice.Subslice.copy_eq]
  exact map_copy_split hc h hstart

theorem forall_mem_intercalate {separator : String} {P : Char → Prop}
    (hseparator : ∀ c ∈ separator.toList, P c) {texts : List String}
    (h : ∀ text ∈ texts, ∀ c ∈ text.toList, P c) :
    ∀ c ∈ (separator.intercalate texts).toList, P c := by
  induction texts with
  | nil => simp
  | cons text texts ih =>
    have htext := h text List.mem_cons_self
    have htexts := ih fun other hother => h other (List.mem_cons_of_mem text hother)
    cases texts with
    | nil => simpa using htext
    | cons next texts =>
      simp only [String.intercalate_cons_cons, String.toList_append, List.mem_append]
      rintro c ((hc | hc) | hc)
      · exact htext c hc
      · exact hseparator c hc
      · exact htexts c hc

section Single

open String (ofList splitOnAux utf8Len singleton)
open String.Pos (Raw)

variable {c : Char}

theorem get_singleton (c : Char) : Raw.get (singleton c) 0 = c := by
  simpa using String.get_of_valid [] [c]

theorem next_singleton (c : Char) : Raw.next (singleton c) 0 = ⟨c.utf8Size⟩ := by
  simpa using String.next_of_valid [] c []

theorem atEnd_next_singleton (c : Char) : Raw.atEnd (singleton c) ⟨c.utf8Size⟩ = true := by
  simpa using String.atEnd_of_valid [c] []

theorem utf8Len_concat (cs : List Char) (d : Char) :
    utf8Len (cs ++ [d]) = utf8Len cs + d.utf8Size := by
  rw [String.utf8Len_append, String.utf8Len_cons, String.utf8Len_nil, Nat.zero_add]

theorem splitOnAux_separator (l m r : List Char) (found : List String) :
    splitOnAux (ofList (l ++ m ++ c :: r)) (singleton c) ⟨utf8Len l⟩ ⟨utf8Len (l ++ m)⟩ 0 found =
      splitOnAux (ofList (l ++ m ++ c :: r)) (singleton c) ⟨utf8Len (l ++ m ++ [c])⟩
        ⟨utf8Len (l ++ m ++ [c])⟩ 0 (ofList m :: found) := by
  have hback : (Raw.mk (utf8Len (l ++ m ++ [c]))).unoffsetBy ⟨c.utf8Size⟩ =
      ⟨utf8Len l + utf8Len m⟩ := by
    rw [utf8Len_concat, String.utf8Len_append, Raw.unoffsetBy, Nat.add_sub_cancel]
  rw [splitOnAux, if_neg (mt (String.atEnd_of_valid _ _).mp (List.cons_ne_nil c r)),
    String.get_of_valid, get_singleton, List.headD_cons, if_pos (beq_self_eq_true c)]
  simp only [next_singleton, atEnd_next_singleton, if_true, String.next_of_valid,
    ← utf8Len_concat, hback, String.extract_of_valid]

theorem splitOnAux_other {d : Char} (hd : (d == c) = false) (l m r : List Char)
    (found : List String) :
    splitOnAux (ofList (l ++ m ++ d :: r)) (singleton c) ⟨utf8Len l⟩ ⟨utf8Len (l ++ m)⟩ 0 found =
      splitOnAux (ofList (l ++ m ++ d :: r)) (singleton c) ⟨utf8Len l⟩
        ⟨utf8Len (l ++ m ++ [d])⟩ 0 found := by
  have hback : (Raw.mk (utf8Len (l ++ m))).unoffsetBy 0 = ⟨utf8Len (l ++ m)⟩ := rfl
  rw [splitOnAux, if_neg (mt (String.atEnd_of_valid _ _).mp (List.cons_ne_nil d r)),
    String.get_of_valid, get_singleton, List.headD_cons, hd, if_neg Bool.false_ne_true, hback,
    String.next_of_valid, utf8Len_concat]

/-- The search stands behind `l` and `m`, and `m` is what came since the last separator. -/
theorem splitOnAux_eq (l m r : List Char) (found : List String) :
    splitOnAux (ofList (l ++ m ++ r)) (singleton c) ⟨utf8Len l⟩ ⟨utf8Len (l ++ m)⟩ 0 found =
      found.reverse ++ (List.splitOnPPrepend (· == c) r m.reverse).map ofList := by
  induction r generalizing l m found with
  | nil =>
    rw [splitOnAux, if_pos ((String.atEnd_of_valid _ _).mpr rfl), String.utf8Len_append,
      String.extract_of_valid]
    simp
  | cons d r ih =>
    rw [List.splitOnPPrepend_cons_eq_if]
    cases hd : d == c with
    | true =>
      obtain rfl := eq_of_beq hd
      have hrest := ih (l ++ m ++ [d]) [] (ofList m :: found)
      rw [List.append_nil, ← List.append_cons] at hrest
      rw [splitOnAux_separator, hrest, if_pos rfl]
      simp
    | false =>
      have hrest := ih l (m ++ [d]) found
      rw [← List.append_assoc l m, ← List.append_cons] at hrest
      rw [splitOnAux_other hd, hrest, if_neg Bool.false_ne_true, List.reverse_concat]

theorem splitOn_singleton (s : String) (c : Char) :
    s.splitOn (singleton c) = (s.toList.splitOn c).map ofList := by
  have hne : (singleton c == "") = false := by simp
  have hsplit := splitOnAux_eq (c := c) [] [] s.toList []
  rw [String.splitOn, hne, if_neg Bool.false_ne_true]
  simpa [List.splitOn] using hsplit

end Single

/-- The parts between the commas, without the blanks around them. -/
def commaParts (s : String) : List String :=
  (s.toList.splitOn ',').map fun part => trim (String.ofList part)

theorem map_trim_splitOn_comma (s : String) : (s.splitOn ",").map trim = commaParts s := by
  have hcomma : "," = String.singleton ',' := by decide
  rw [hcomma, splitOn_singleton, List.map_map]
  rfl

end SqlMapper.Text
