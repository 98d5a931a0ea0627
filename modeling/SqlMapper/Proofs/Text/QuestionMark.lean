import SqlMapper.Proofs.Text.Trim
import SqlMapper.Statement.Dialect

/-! Question marks wherever they stand in a text, in quotes or not, and what they stand for. A
text is put together from parts without question marks and from single ones, each of which has
its value. -/

namespace SqlMapper.Text

/-- A text with its first question mark replaced by the first value, the second by the second, and
so on. -/
def bindMarks : List Char → List β → List (Char ⊕ β)
  | [], _ => []
  | c :: cs, [] => .inl c :: bindMarks cs []
  | c :: cs, v :: vs =>
    if c = '?' then .inr v :: bindMarks cs vs else .inl c :: bindMarks cs (v :: vs)

theorem bindMarks_cons_of_ne {c : Char} (hc : c ≠ '?') (cs : List Char) (vs : List β) :
    bindMarks (c :: cs) vs = .inl c :: bindMarks cs vs := by
  cases vs <;> simp [bindMarks, hc]

def marked : Char ⊕ β → Char
  | .inl c => c
  | .inr _ => '?'

/-- The text reads as `r`, whose values are those of its question marks. -/
structure Reads (text : String) (values : List β) (r : List (Char ⊕ β)) : Prop where
  text_eq : text.toList = r.map marked
  values_eq : values = r.filterMap Sum.getRight?
  plain : ∀ c, Sum.inl c ∈ r → c ≠ '?'

theorem bindMarks_of_plain (r : List (Char ⊕ β)) (h : ∀ c, Sum.inl c ∈ r → c ≠ '?') :
    bindMarks (r.map marked) (r.filterMap Sum.getRight?) = r := by
  induction r with
  | nil => rfl
  | cons x r ih =>
    have hr := ih fun c hc => h c (List.mem_cons_of_mem x hc)
    cases x with
    | inr v => simpa [bindMarks, marked] using hr
    | inl c =>
      rw [List.map_cons, marked, bindMarks_cons_of_ne (h c List.mem_cons_self)]
      exact congrArg _ hr

theorem count_of_plain (r : List (Char ⊕ β)) (h : ∀ c, Sum.inl c ∈ r → c ≠ '?') :
    (r.map marked).count '?' = (r.filterMap Sum.getRight?).length := by
  induction r with
  | nil => rfl
  | cons x r ih =>
    have hr := ih fun c hc => h c (List.mem_cons_of_mem x hc)
    cases x with
    | inr v => simpa [marked] using hr
    | inl c =>
      have hc : c ≠ '?' := h c List.mem_cons_self
      simpa [marked, hc, List.filterMap_cons] using hr

/-- No question mark is in the text. -/
abbrev Unmarked (s : String) : Prop :=
  '?' ∉ s.toList

theorem Unmarked.append {s t : String} (hs : Unmarked s) (ht : Unmarked t) : Unmarked (s ++ t) := by
  rw [Unmarked, String.toList_append, List.mem_append]
  exact not_or.mpr ⟨hs, ht⟩

namespace Reads

variable {s t : String} {vs ws : List β} {r q : List (Char ⊕ β)}

theorem bindMarks_eq (h : Reads s vs r) : bindMarks s.toList vs = r := by
  rw [h.text_eq, h.values_eq, bindMarks_of_plain r h.plain]

theorem count_eq (h : Reads s vs r) : s.toList.count '?' = vs.length := by
  rw [h.text_eq, h.values_eq, count_of_plain r h.plain]

theorem append (hs : Reads s vs r) (ht : Reads t ws q) : Reads (s ++ t) (vs ++ ws) (r ++ q) where
  text_eq := by rw [String.toList_append, hs.text_eq, ht.text_eq, List.map_append]
  values_eq := by rw [hs.values_eq, ht.values_eq, List.filterMap_append]
  plain c hc := (List.mem_append.mp hc).elim (hs.plain c) (ht.plain c)

theorem of_unmarked (h : Unmarked s) : Reads s ([] : List β) (s.toList.map .inl) where
  text_eq := by
    rw [List.map_map]
    exact (List.map_id s.toList).symm
  values_eq := by simp
  plain c hc := by
    rintro rfl
    obtain ⟨d, hd, he⟩ := List.mem_map.mp hc
    exact h (Sum.inl.inj he ▸ hd)

theorem mark (v : β) : Reads "?" [v] [.inr v] where
  text_eq := rfl
  values_eq := rfl
  plain c hc := by simp at hc

theorem nil : Reads "" ([] : List β) [] :=
  of_unmarked (by simp [Unmarked])

theorem join {parts : List α} {text : α → String} {values : α → List β}
    {read : α → List (Char ⊕ β)} (h : ∀ p ∈ parts, Reads (text p) (values p) (read p)) :
    Reads (String.join (parts.map text)) (parts.flatMap values) (parts.flatMap read) := by
  induction parts with
  | nil => exact nil
  | cons p ps ih =>
    rw [List.map_cons, String.join_cons]
    exact (h p List.mem_cons_self).append (ih fun q hq => h q (List.mem_cons_of_mem p hq))

theorem intercalate {separator : String} {glue : List (Char ⊕ β)} (hs : Reads separator [] glue)
    {parts : List α} {text : α → String} {values : α → List β} {read : α → List (Char ⊕ β)}
    (h : ∀ p ∈ parts, Reads (text p) (values p) (read p)) :
    Reads (separator.intercalate (parts.map text)) (parts.flatMap values)
      (glue.intercalate (parts.map read)) := by
  induction parts with
  | nil => exact nil
  | cons p ps ih =>
    have hp := h p List.mem_cons_self
    have hps := ih fun q hq => h q (List.mem_cons_of_mem p hq)
    cases ps with
    | nil => simpa using hp
    | cons q qs =>
      have hh := (hp.append hs).append hps
      rw [List.append_nil] at hh
      simpa only [List.map_cons, String.intercalate_cons_cons, List.intercalate_cons_cons,
        List.flatMap_cons] using hh

end Reads

theorem Unmarked.intercalate {separator : String} (hs : Unmarked separator) {parts : List String}
    (h : ∀ p ∈ parts, Unmarked p) : Unmarked (separator.intercalate parts) := by
  have hr : Reads (separator.intercalate (parts.map id)) (parts.flatMap fun _ => ([] : List Unit))
      ((separator.toList.map .inl).intercalate (parts.map fun p => p.toList.map .inl)) :=
    Reads.intercalate (Reads.of_unmarked hs) fun p hp => Reads.of_unmarked (h p hp)
  have hcount := hr.count_eq
  rw [List.map_id, List.flatMap_eq_nil_iff.mpr fun _ _ => rfl] at hcount
  exact List.count_eq_zero.mp hcount

theorem map_marked_bindMarks (cs : List Char) (vs : List β) :
    (bindMarks cs vs).map marked = cs := by
  induction cs generalizing vs with
  | nil => rfl
  | cons c cs ih =>
    by_cases hc : c = '?'
    · subst hc
      cases vs <;> simp [bindMarks, marked, ih]
    · simp [bindMarks_cons_of_ne hc, marked, ih]

theorem filterMap_bindMarks {cs : List Char} {vs : List β} (h : vs.length ≤ cs.count '?') :
    (bindMarks cs vs).filterMap Sum.getRight? = vs := by
  induction cs generalizing vs with
  | nil =>
    obtain rfl : vs = [] := by simpa using h
    rfl
  | cons c cs ih =>
    by_cases hc : c = '?'
    · subst hc
      cases vs with
      | nil =>
        have hnone : ([] : List β).length ≤ cs.count '?' := Nat.zero_le _
        simpa [bindMarks] using ih hnone
      | cons v vs => simpa [bindMarks] using ih (show vs.length ≤ cs.count '?' by simpa using h)
    · simpa [bindMarks_cons_of_ne hc, List.filterMap_cons] using ih (by simpa [hc] using h)

theorem ne_of_mem_bindMarks {cs : List Char} {vs : List β} (h : cs.count '?' ≤ vs.length)
    {c : Char} (hc : Sum.inl c ∈ bindMarks cs vs) : c ≠ '?' := by
  induction cs generalizing vs with
  | nil => simp [bindMarks] at hc
  | cons d cs ih =>
    by_cases hd : d = '?'
    · subst hd
      cases vs with
      | nil => simp at h
      | cons v vs => exact ih (by simpa using h) (by simpa [bindMarks] using hc)
    · rw [bindMarks_cons_of_ne hd] at hc
      rcases List.mem_cons.mp hc with hc | hc
      · exact Sum.inl.inj hc ▸ hd
      · exact ih (by simpa [hd] using h) hc

/-- Any text reads as it is with as many values as it has question marks. -/
theorem reads_bindMarks {s : String} {vs : List β} (h : s.toList.count '?' = vs.length) :
    Reads s vs (bindMarks s.toList vs) where
  text_eq := (map_marked_bindMarks _ vs).symm
  values_eq := (filterMap_bindMarks h.ge).symm
  plain _ hc := ne_of_mem_bindMarks h.le hc

theorem count_trimChars (cs : List Char) : (trimChars cs).count '?' = cs.count '?' := by
  have hblank : ∀ ds : List Char, (∀ d ∈ ds, isBlank d = true) → ds.count '?' = 0 := by
    intro ds hds
    refine List.count_eq_zero.mpr fun hd => ?_
    exact absurd (hds '?' hd) (by decide)
  obtain ⟨front, back, hf, hb, he⟩ := exists_blanks_trimChars cs
  have hcount := congrArg (List.count '?') he
  simp only [List.count_append, hblank front hf, hblank back hb] at hcount
  omega

theorem Unmarked.trim {s : String} (h : Unmarked s) : Unmarked (trim s) := by
  rw [Unmarked, toList_trim, ← List.count_eq_zero, count_trimChars, List.count_eq_zero]
  exact h

/-- A number as the numbered dialect writes it, any other character as it is. -/
def numberText : Char ⊕ Nat → List Char
  | .inl c => [c]
  | .inr n => '$' :: (Decimal.ofNat n).toList

theorem numberFrom_eq (before : Nat) (cs : List Char) :
    Dialect.numberFrom before cs =
      (bindMarks cs (List.range' (before + 1) (cs.count '?'))).flatMap numberText := by
  induction cs generalizing before with
  | nil => rfl
  | cons c cs ih =>
    by_cases hc : c = '?'
    · subst hc
      simp [Dialect.numberFrom, bindMarks, numberText, List.range'_succ, ih]
    · have hstep : Dialect.numberFrom before (c :: cs) = c :: Dialect.numberFrom before cs := by
        rw [Dialect.numberFrom]
        exact hc
      rw [hstep, bindMarks_cons_of_ne hc, ih]
      simp [numberText, hc]

end SqlMapper.Text
