import Mathlib.Data.List.TakeWhile
import SqlMapper.Text.Blank

/-! What trimming takes away and what it leaves: blanks go from both ends, and a text that
neither begins nor ends with one stays as it is. -/

namespace SqlMapper.Text

theorem exists_blanks_trimStart (cs : List Char) :
    ∃ front, (∀ c ∈ front, isBlank c = true) ∧ cs = front ++ trimStart cs :=
  ⟨cs.takeWhile isBlank, fun _ hc => List.mem_takeWhile_imp hc,
    List.takeWhile_append_dropWhile.symm⟩

theorem exists_blanks_trimEnd (cs : List Char) :
    ∃ back, (∀ c ∈ back, isBlank c = true) ∧ cs = trimEnd cs ++ back := by
  obtain ⟨front, hf, he⟩ := exists_blanks_trimStart cs.reverse
  refine ⟨front.reverse, fun c hc => hf c (List.mem_reverse.mp hc), ?_⟩
  simpa [trimStart, trimEnd] using congrArg List.reverse he

theorem exists_blanks_trimChars (cs : List Char) :
    ∃ front back, (∀ c ∈ front, isBlank c = true) ∧ (∀ c ∈ back, isBlank c = true) ∧
      cs = front ++ trimChars cs ++ back := by
  obtain ⟨front, hf, hs⟩ := exists_blanks_trimStart cs
  obtain ⟨back, hb, he⟩ := exists_blanks_trimEnd (trimStart cs)
  refine ⟨front, back, hf, hb, ?_⟩
  rw [trimChars, List.append_assoc, ← he, ← hs]

theorem isBlank_head_trimStart {cs : List Char} {c : Char} (h : c ∈ (trimStart cs).head?) :
    isBlank c = false := by
  have hd := List.head?_dropWhile_not isBlank cs
  rw [Option.mem_def, trimStart] at h
  simpa [h] using hd

theorem isBlank_getLast_trimChars {cs : List Char} {c : Char}
    (h : c ∈ (trimChars cs).getLast?) : isBlank c = false := by
  rw [trimChars, trimEnd, List.getLast?_reverse] at h
  exact isBlank_head_trimStart h

theorem isBlank_head_trimChars {cs : List Char} {c : Char} (h : c ∈ (trimChars cs).head?) :
    isBlank c = false := by
  obtain ⟨back, -, he⟩ := exists_blanks_trimEnd (trimStart cs)
  have hh : c ∈ (trimStart cs).head? := by
    rw [he, List.head?_append, ← trimChars, Option.mem_def.mp h]
    rfl
  exact isBlank_head_trimStart hh

theorem trimStart_eq_self {cs : List Char} (h : ∀ c ∈ cs.head?, isBlank c = false) :
    trimStart cs = cs := by
  cases cs with
  | nil => rfl
  | cons c cs => simp [trimStart, h c rfl]

theorem trimEnd_eq_self {cs : List Char} (h : ∀ c ∈ cs.getLast?, isBlank c = false) :
    trimEnd cs = cs := by
  have hs : trimStart cs.reverse = cs.reverse :=
    trimStart_eq_self fun c hc => h c (by rwa [List.head?_reverse] at hc)
  rw [trimEnd, ← trimStart, hs, List.reverse_reverse]

theorem trimChars_eq_self {cs : List Char} (hfirst : ∀ c ∈ cs.head?, isBlank c = false)
    (hlast : ∀ c ∈ cs.getLast?, isBlank c = false) : trimChars cs = cs := by
  rw [trimChars, trimStart_eq_self hfirst, trimEnd_eq_self hlast]

theorem trim_eq_self {s : String} (hfirst : ∀ c ∈ s.toList.head?, isBlank c = false)
    (hlast : ∀ c ∈ s.toList.getLast?, isBlank c = false) : trim s = s := by
  rw [trim, trimChars_eq_self hfirst hlast, String.ofList_toList]

theorem trimEnd_eq_nil_iff {cs : List Char} : trimEnd cs = [] ↔ ∀ c ∈ cs, isBlank c = true := by
  simp [trimEnd]

theorem trimStart_append_of_blanks {front : List Char} (hf : ∀ c ∈ front, isBlank c = true)
    (cs : List Char) : trimStart (front ++ cs) = trimStart cs := by
  rw [trimStart, List.dropWhile_append_of_pos hf, trimStart]

/-- Blanks around a text are trimmed away with those that it has itself. -/
theorem trimChars_between_blanks {front back : List Char} (hf : ∀ c ∈ front, isBlank c = true)
    (hb : ∀ c ∈ back, isBlank c = true) (cs : List Char) :
    trimChars (front ++ cs ++ back) = trimChars cs := by
  have hend : ∀ ds, trimEnd (ds ++ back) = trimEnd ds := by
    intro ds
    have hrev : ∀ c ∈ back.reverse, isBlank c = true := fun c hc => hb c (List.mem_reverse.mp hc)
    rw [trimEnd, List.reverse_append, List.dropWhile_append_of_pos hrev, trimEnd]
  rw [List.append_assoc, trimChars, trimStart_append_of_blanks hf, trimStart, List.dropWhile_append]
  split
  · rename_i h
    rw [trimChars, trimStart, List.isEmpty_iff.mp h, List.dropWhile_eq_nil_iff.mpr hb]
  · exact hend _

theorem trimEnd_append {cs ds : List Char} (h : trimEnd ds ≠ []) :
    trimEnd (cs ++ ds) = cs ++ trimEnd ds := by
  have hne : ds.reverse.dropWhile isBlank ≠ [] := by simpa [trimEnd] using h
  simp [trimEnd, List.dropWhile_append, hne]

theorem trimEnd_ne_nil_of_trim {s : String} (h : trim s ≠ "") : trimEnd s.toList ≠ [] := by
  intro hs
  have hblank := trimEnd_eq_nil_iff.mp hs
  refine h ((congrArg String.ofList ?_).trans String.ofList_nil)
  rw [trimChars, trimEnd_eq_nil_iff]
  exact fun c hc => hblank c ((List.dropWhile_sublist _).subset hc)

/-- Trimming a text that begins with no blank only shortens what stands last in it. -/
theorem trim_append {s t : String} (hs : s ≠ "") (hfirst : ∀ c ∈ s.toList.head?, isBlank c = false)
    (ht : trim t ≠ "") : trim (s ++ t) = s ++ String.ofList (trimEnd t.toList) := by
  have hstart : trimStart (s.toList ++ t.toList) = s.toList ++ t.toList := by
    have hne : s.toList ≠ [] := by simpa using hs
    refine trimStart_eq_self fun c hc => hfirst c ?_
    rwa [List.head?_append, List.head?_eq_some_head hne, Option.some_or,
      ← List.head?_eq_some_head hne] at hc
  rw [trim, String.toList_append, trimChars, hstart, trimEnd_append (trimEnd_ne_nil_of_trim ht),
    String.ofList_append, String.ofList_toList]

theorem getLast?_append_of_some (s : String) {t : String} {c : Char}
    (h : t.toList.getLast? = some c) : (s ++ t).toList.getLast? = some c := by
  rw [String.toList_append, List.getLast?_append, h, Option.some_or]

theorem trim_trim (s : String) : trim (trim s) = trim s :=
  trim_eq_self (fun _ hc => isBlank_head_trimChars (by rwa [toList_trim] at hc))
    (fun _ hc => isBlank_getLast_trimChars (by rwa [toList_trim] at hc))

theorem isBlank_getLast_of_trim_eq {s : String} (h : trim s = s) {c : Char}
    (hc : c ∈ s.toList.getLast?) : isBlank c = false := by
  rw [← h, toList_trim] at hc
  exact isBlank_getLast_trimChars hc

theorem isBlank_head_of_trim_eq {s : String} (h : trim s = s) {c : Char}
    (hc : c ∈ s.toList.head?) : isBlank c = false := by
  rw [← h, toList_trim] at hc
  exact isBlank_head_trimChars hc

theorem trim_append_space {s t : String} (hs : trim s = s) (hsne : s ≠ "") (ht : trim t = t)
    (htne : t ≠ "") : trim (s ++ " " ++ t) = s ++ " " ++ t := by
  have hslist : s.toList ≠ [] := by simpa using hsne
  have htlist : t.toList ≠ [] := by simpa using htne
  have hfirst : (s ++ " " ++ t).toList.head? = s.toList.head? := by
    rw [String.toList_append, String.toList_append, List.append_assoc, List.head?_append,
      List.head?_eq_some_head hslist, Option.some_or]
  have hlast : (s ++ " " ++ t).toList.getLast? = t.toList.getLast? := by
    rw [List.getLast?_eq_some_getLast htlist]
    exact getLast?_append_of_some _ (List.getLast?_eq_some_getLast htlist)
  refine trim_eq_self (fun c hc => ?_) fun c hc => ?_
  · rw [hfirst] at hc
    exact isBlank_head_of_trim_eq hs hc
  · rw [hlast] at hc
    exact isBlank_getLast_of_trim_eq ht hc

end SqlMapper.Text
