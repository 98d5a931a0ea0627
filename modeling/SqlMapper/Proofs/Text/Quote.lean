import SqlMapper.Proofs.Text.Trim

/-! Placeholders as a server counts them: the question marks of a text that stand outside
quotes. Each kind of quote is closed by the next quote of the same kind. -/

namespace SqlMapper.Text

def isQuote (c : Char) : Bool :=
  c == '\'' || c == '"' || c == '\x60'

/-- The quote that is open after a character, given the one open before it. -/
def quoteStep (quote : Option Char) (c : Char) : Option Char :=
  match quote with
  | some q => if c = q then none else some q
  | none => if isQuote c then some c else none

def openQuote (quote : Option Char) (cs : List Char) : Option Char :=
  cs.foldl quoteStep quote

def placeholderCount : Option Char → List Char → Nat
  | _, [] => 0
  | quote, c :: cs =>
    (if quote = none ∧ c = '?' then 1 else 0) + placeholderCount (quoteStep quote c) cs

theorem openQuote_append (quote : Option Char) (cs ds : List Char) :
    openQuote quote (cs ++ ds) = openQuote (openQuote quote cs) ds :=
  List.foldl_append

theorem placeholderCount_append (quote : Option Char) (cs ds : List Char) :
    placeholderCount quote (cs ++ ds) =
      placeholderCount quote cs + placeholderCount (openQuote quote cs) ds := by
  induction cs generalizing quote with
  | nil => simp [placeholderCount, openQuote]
  | cons c cs ih => simp [placeholderCount, openQuote, ih, Nat.add_assoc]

theorem isQuote_of_openQuote {quote : Option Char} (hq : ∀ q ∈ quote, isQuote q = true)
    (cs : List Char) : ∀ q ∈ openQuote quote cs, isQuote q = true := by
  induction cs generalizing quote with
  | nil => exact hq
  | cons c cs ih =>
    show ∀ q ∈ openQuote (quoteStep quote c) cs, isQuote q = true
    apply ih
    intro q hm
    cases quote with
    | none =>
      by_cases hc : isQuote c = true
      · have he : c = q := by simpa [quoteStep, hc] using hm
        exact he ▸ hc
      · simp [quoteStep, hc] at hm
    | some p =>
      by_cases hc : c = p
      · simp [quoteStep, hc] at hm
      · have he : p = q := by simpa [quoteStep, hc] using hm
        exact he ▸ hq p rfl

theorem quoteStep_of_isBlank {quote : Option Char} (hq : ∀ q ∈ quote, isQuote q = true)
    {c : Char} (hc : isBlank c = true) : quoteStep quote c = quote := by
  have hne : isQuote c = false := by
    apply Bool.eq_false_iff.mpr
    intro h
    simp only [isQuote, Bool.or_eq_true, beq_iff_eq] at h
    rcases h with (rfl | rfl) | rfl <;> revert hc <;> decide
  cases quote with
  | none => simp [quoteStep, hne]
  | some q =>
    have hcq : c ≠ q := fun he => by simp [he, hq q rfl] at hne
    simp [quoteStep, hcq]

theorem openQuote_of_blanks {quote : Option Char} (hq : ∀ q ∈ quote, isQuote q = true)
    {cs : List Char} (hcs : ∀ c ∈ cs, isBlank c = true) : openQuote quote cs = quote := by
  induction cs with
  | nil => rfl
  | cons c cs ih =>
    have hs := quoteStep_of_isBlank hq (hcs c (by simp))
    have hh := ih fun d hd => hcs d (by simp [hd])
    simpa [openQuote, hs] using hh

theorem placeholderCount_of_blanks (quote : Option Char) {cs : List Char}
    (hcs : ∀ c ∈ cs, isBlank c = true) : placeholderCount quote cs = 0 := by
  induction cs generalizing quote with
  | nil => rfl
  | cons c cs ih =>
    have hc : c ≠ '?' := by
      rintro rfl
      exact absurd (hcs '?' (by simp)) (by decide)
    simp [placeholderCount, hc, ih (quoteStep quote c) fun d hd => hcs d (by simp [hd])]

/-- The text closes its quotes and has `n` placeholders. -/
structure HasPlaceholders (text : String) (n : Nat) : Prop where
  closed : openQuote none text.toList = none
  count : placeholderCount none text.toList = n

instance (text : String) (n : Nat) : Decidable (HasPlaceholders text n) :=
  decidable_of_iff (openQuote none text.toList = none ∧ placeholderCount none text.toList = n)
    ⟨fun h => ⟨h.1, h.2⟩, fun h => ⟨h.closed, h.count⟩⟩

namespace HasPlaceholders

theorem append {s t : String} {m n : Nat} (hs : HasPlaceholders s m) (ht : HasPlaceholders t n) :
    HasPlaceholders (s ++ t) (m + n) where
  closed := by rw [String.toList_append, openQuote_append, hs.closed, ht.closed]
  count := by rw [String.toList_append, placeholderCount_append, hs.closed, hs.count, ht.count]

theorem trim {s : String} {n : Nat} (h : HasPlaceholders s n) : HasPlaceholders (trim s) n := by
  obtain ⟨front, back, hf, hb, he⟩ := exists_blanks_trimChars s.toList
  have hopen : openQuote none front = none := openQuote_of_blanks (by simp) hf
  -- a quote left open by the trimmed text would have to be closed by a blank
  have hback : openQuote (openQuote none (trimChars s.toList)) back =
      openQuote none (trimChars s.toList) :=
    openQuote_of_blanks (isQuote_of_openQuote (by simp) _) hb
  have hclosed := h.closed
  have hcount := h.count
  rw [he] at hclosed hcount
  simp only [openQuote_append, hopen, hback] at hclosed
  simp only [placeholderCount_append, openQuote_append, hopen, placeholderCount_of_blanks _ hf,
    placeholderCount_of_blanks _ hb, Nat.zero_add, Nat.add_zero] at hcount
  exact ⟨by rw [toList_trim, hclosed], by rw [toList_trim, hcount]⟩

theorem intercalate {separator : String} (hs : HasPlaceholders separator 0) {parts : List α}
    {text : α → String} {values : α → List β}
    (h : ∀ p ∈ parts, HasPlaceholders (text p) (values p).length) :
    HasPlaceholders (separator.intercalate (parts.map text)) (parts.flatMap values).length := by
  induction parts with
  | nil => exact ⟨rfl, rfl⟩
  | cons p ps ih =>
    have hp := h p (by simp)
    have hps := ih fun q hq => h q (by simp [hq])
    cases ps with
    | nil => simpa using hp
    | cons q qs =>
      have hh := (hp.append hs).append hps
      rw [Nat.add_zero, ← List.length_append] at hh
      simpa only [List.map_cons, String.intercalate_cons_cons, List.flatMap_cons] using hh

end HasPlaceholders

/-- A text as it reads with its values in place: the first placeholder stands for the first value,
the second for the second, and so on. -/
def withValuesFrom : Option Char → List Char → List β → List (Char ⊕ β)
  | _, [], _ => []
  | quote, c :: cs, [] => .inl c :: withValuesFrom (quoteStep quote c) cs []
  | quote, c :: cs, v :: vs =>
    if quote = none ∧ c = '?' then .inr v :: withValuesFrom quote cs vs
    else .inl c :: withValuesFrom (quoteStep quote c) cs (v :: vs)

def withValues (text : String) (values : List β) : List (Char ⊕ β) :=
  withValuesFrom none text.toList values

theorem withValuesFrom_nil (quote : Option Char) (cs : List Char) :
    withValuesFrom quote cs ([] : List β) = cs.map .inl := by
  induction cs generalizing quote with
  | nil => rfl
  | cons c cs ih => simp [withValuesFrom, ih]

theorem withValues_nil (text : String) : withValues text ([] : List β) = text.toList.map .inl :=
  withValuesFrom_nil none text.toList

theorem withValuesFrom_append {quote : Option Char} {cs : List Char} {vs : List β}
    (h : placeholderCount quote cs = vs.length) (ds : List Char) (ws : List β) :
    withValuesFrom quote (cs ++ ds) (vs ++ ws) =
      withValuesFrom quote cs vs ++ withValuesFrom (openQuote quote cs) ds ws := by
  induction cs generalizing quote vs with
  | nil =>
    have hv : vs = [] := List.length_eq_zero_iff.mp h.symm
    simp [hv, withValuesFrom, openQuote]
  | cons c cs ih =>
    by_cases hc : quote = none ∧ c = '?'
    · obtain ⟨rfl, rfl⟩ := hc
      cases vs with
      | nil => simp [placeholderCount] at h
      | cons v vs =>
        have hq : quoteStep none '?' = none := by decide
        have hh : placeholderCount none cs = vs.length := by
          simp only [placeholderCount, hq, and_self, if_true, List.length_cons] at h
          omega
        simp [withValuesFrom, openQuote, hq, ih hh]
    · have hh : placeholderCount (quoteStep quote c) cs = vs.length := by
        simpa [placeholderCount, hc] using h
      have hi := ih hh
      cases vs with
      | nil =>
        cases ws with
        | nil => simpa [withValuesFrom, openQuote] using hi
        | cons w ws => simpa [withValuesFrom, openQuote, hc] using hi
      | cons v vs => simpa [withValuesFrom, openQuote, hc] using hi

theorem withValues_append {s t : String} {vs ws : List β} (h : HasPlaceholders s vs.length) :
    withValues (s ++ t) (vs ++ ws) = withValues s vs ++ withValues t ws := by
  rw [withValues, String.toList_append, withValuesFrom_append h.count, h.closed]
  rfl

end SqlMapper.Text
