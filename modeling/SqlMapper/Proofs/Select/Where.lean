import SqlMapper.Proofs.Text.Quote
import SqlMapper.Proofs.Text.Word
import SqlMapper.Select.Where

/-! When a statement has a `where` of its own: the word stands somewhere in the text, in either
case, between characters of no word, and what precedes it leaves no parenthesis and no quote
open. -/

namespace SqlMapper.Select

/-- The word stands between `before` and `after` and belongs to no longer word. -/
structure WhereBetween (text before word after : List Char) : Prop where
  split : text = before ++ word ++ after
  spelled : word.map Char.toLower = "where".toList
  before_word : ∀ c ∈ before.getLast?, Text.isWordChar c = false
  after_word : ∀ c ∈ after.head?, Text.isWordChar c = false

def OuterWhere (base : String) : Prop :=
  ∃ before word after, WhereBetween base.toList before word after ∧
    (before.foldl Scan.step .start).isTopLevel = true

/-- The search from inside a text. `inWord` stands for the character before it. -/
theorem hasWhereFrom_iff (scan : Scan) (inWord : Bool) (cs : List Char) :
    hasWhereFrom scan inWord cs = true ↔
      ∃ before word after, WhereBetween cs before word after ∧ (before = [] → inWord = false) ∧
        (before.foldl Scan.step scan).isTopLevel = true := by
  induction cs generalizing scan inWord with
  | nil =>
    simp only [hasWhereFrom, Bool.false_eq_true, false_iff]
    rintro ⟨before, word, after, h, -, -⟩
    obtain ⟨-, rfl, -⟩ : before = [] ∧ word = [] ∧ after = [] := by simpa using h.split.symm
    exact absurd h.spelled (by decide)
  | cons c cs ih =>
    simp only [hasWhereFrom, Bool.or_eq_true, Bool.and_eq_true, Bool.not_eq_true',
      Text.startsWord_iff, ih]
    constructor
    · rintro (⟨⟨hin, htop⟩, word, after, he, hw, ha⟩ | ⟨before, word, after, h, hin, htop⟩)
      · exact ⟨[], word, after, ⟨he, hw, by simp, ha⟩, fun _ => hin, htop⟩
      · refine ⟨c :: before, word, after, ⟨?_, h.spelled, ?_, h.after_word⟩, by simp, htop⟩
        · rw [h.split]; rfl
        · cases before with
          | nil => simpa using hin rfl
          | cons d before => simpa using h.before_word
    · rintro ⟨before, word, after, h, hin, htop⟩
      cases before with
      | nil => exact .inl ⟨⟨hin rfl, htop⟩, word, after, h.split, h.spelled, h.after_word⟩
      | cons d before =>
        obtain ⟨rfl, hs⟩ : c = d ∧ cs = before ++ word ++ after := by simpa using h.split
        refine .inr ⟨before, word, after, ⟨hs, h.spelled, ?_, h.after_word⟩, ?_, htop⟩
        · cases before with
          | nil => simp
          | cons e before => simpa using h.before_word
        · rintro rfl
          simpa using h.before_word

theorem hasOuterWhere_iff (base : String) : hasOuterWhere base = true ↔ OuterWhere base := by
  simp [hasOuterWhere, hasWhereFrom_iff, OuterWhere]

theorem toLower_not_mem_where {c : Char} (h : Text.isWordChar c = false) :
    c.toLower ∉ "where".toList := by
  intro hm
  by_cases hu : c.val ≥ 'A'.val ∧ c.val ≤ 'Z'.val
  · have hupper : c.isUpper = true := decide_eq_true hu
    have halpha : c.isAlpha = true := (Bool.or_eq_true _ _).mpr (.inl hupper)
    have hhigh : c.toNat ≤ 90 := hu.2
    have hlow : c.toNat < 0x80 := by omega
    simp [Text.isWordChar, hlow, Char.isAlphanum, halpha] at h
  · have he : c.toLower = c := dif_neg hu
    have hword : "where".toList.all Text.isWordChar = true := by decide
    rw [he] at hm
    simp [List.all_eq_true.mp hword c hm] at h

theorem hasWhereFrom_cons_break (scan : Scan) (inWord : Bool) {c : Char}
    (hc : Text.isWordChar c = false) (cs : List Char) :
    hasWhereFrom scan inWord (c :: cs) = hasWhereFrom (scan.step c) false cs := by
  have hstart := Text.startsWord_append_break (toLower_not_mem_where hc) hc [] cs
  rw [List.nil_append] at hstart
  have hnil : Text.startsWord "where".toList [] = false := by decide
  rw [hasWhereFrom, hstart, hnil, hc, Bool.and_false, Bool.false_or]

/-- A character that belongs to no word parts the search in two. -/
theorem hasWhereFrom_append_break (scan : Scan) (inWord : Bool) {c : Char}
    (hc : Text.isWordChar c = false) (a b : List Char) :
    hasWhereFrom scan inWord (a ++ c :: b) =
      (hasWhereFrom scan inWord a ||
        hasWhereFrom ((a.foldl Scan.step scan).step c) false b) := by
  have hname := toLower_not_mem_where hc
  induction a generalizing scan inWord with
  | nil =>
    rw [List.nil_append, hasWhereFrom_cons_break scan inWord hc]
    rfl
  | cons d a ih =>
    have hstart := Text.startsWord_append_break hname hc (d :: a) b
    rw [List.cons_append] at hstart
    rw [List.cons_append, hasWhereFrom, hstart, ih (scan.step d), hasWhereFrom, List.foldl_cons,
      Bool.or_assoc]

theorem quote_step (scan : Scan) (c : Char) :
    (scan.step c).quote = Text.quoteStep scan.quote c := by
  obtain ⟨depth, quote⟩ := scan
  cases quote with
  | none =>
    have hquote : Scan.isQuote c = Text.isQuote c := rfl
    simp only [Scan.step, Text.quoteStep, hquote]
    split
    · rfl
    · split
      · rfl
      · split <;> rfl
  | some q =>
    simp only [Scan.step, Text.quoteStep]
    split <;> rfl

theorem quote_foldl_step (scan : Scan) (cs : List Char) :
    (cs.foldl Scan.step scan).quote = Text.openQuote scan.quote cs := by
  induction cs generalizing scan with
  | nil => rfl
  | cons c cs ih =>
    rw [List.foldl_cons, ih, quote_step]
    rfl

theorem isQuote_of_start : ∀ q ∈ Scan.start.quote, Text.isQuote q = true := by
  simp [Scan.start]

theorem isQuote_of_scan (cs : List Char) :
    ∀ q ∈ (cs.foldl Scan.step .start).quote, Text.isQuote q = true := by
  rw [quote_foldl_step]
  exact Text.isQuote_of_openQuote isQuote_of_start cs

/-- A blank is neither a quote nor a parenthesis. -/
theorem step_of_isBlank {scan : Scan} (hq : ∀ q ∈ scan.quote, Text.isQuote q = true) {c : Char}
    (hc : Text.isBlank c = true) : scan.step c = scan := by
  have hquote := Text.quoteStep_of_isBlank hq hc
  rw [← quote_step] at hquote
  have hdepth : (scan.step c).depth = scan.depth := by
    rw [Scan.step]
    split
    · split <;> rfl
    · split
      · rfl
      · rw [if_neg (by rintro rfl; revert hc; decide), if_neg (by rintro rfl; revert hc; decide)]
  calc scan.step c = ⟨(scan.step c).depth, (scan.step c).quote⟩ := rfl
    _ = scan := by rw [hdepth, hquote]

theorem foldl_step_of_blanks {scan : Scan} (hq : ∀ q ∈ scan.quote, Text.isQuote q = true)
    {cs : List Char} (hcs : ∀ c ∈ cs, Text.isBlank c = true) : cs.foldl Scan.step scan = scan := by
  induction cs with
  | nil => rfl
  | cons c cs ih =>
    obtain ⟨hc, hrest⟩ := List.forall_mem_cons.mp hcs
    rw [List.foldl_cons, step_of_isBlank hq hc, ih hrest]

theorem hasWhereFrom_of_blanks (scan : Scan) (inWord : Bool) {cs : List Char}
    (hcs : ∀ c ∈ cs, Text.isBlank c = true) : hasWhereFrom scan inWord cs = false := by
  induction cs generalizing scan inWord with
  | nil => rfl
  | cons c cs ih =>
    obtain ⟨hc, hrest⟩ := List.forall_mem_cons.mp hcs
    rw [hasWhereFrom_cons_break _ _ (Text.isWordChar_of_isBlank hc), ih _ _ hrest]

theorem hasWhereFrom_blanks_append {scan : Scan} (hq : ∀ q ∈ scan.quote, Text.isQuote q = true)
    {front : List Char} (hf : ∀ c ∈ front, Text.isBlank c = true) (cs : List Char) :
    hasWhereFrom scan false (front ++ cs) = hasWhereFrom scan false cs := by
  induction front with
  | nil => rfl
  | cons c front ih =>
    obtain ⟨hc, hrest⟩ := List.forall_mem_cons.mp hf
    rw [List.cons_append, hasWhereFrom_cons_break _ _ (Text.isWordChar_of_isBlank hc),
      step_of_isBlank hq hc, ih hrest]

theorem hasWhereFrom_append_blanks (scan : Scan) (inWord : Bool) (cs : List Char)
    {back : List Char} (hb : ∀ c ∈ back, Text.isBlank c = true) :
    hasWhereFrom scan inWord (cs ++ back) = hasWhereFrom scan inWord cs := by
  cases back with
  | nil => rw [List.append_nil]
  | cons c back =>
    obtain ⟨hc, hrest⟩ := List.forall_mem_cons.mp hb
    rw [hasWhereFrom_append_break _ _ (Text.isWordChar_of_isBlank hc),
      hasWhereFrom_of_blanks _ _ hrest, Bool.or_false]

theorem hasOuterWhere_trim (s : String) : hasOuterWhere (Text.trim s) = hasOuterWhere s := by
  obtain ⟨front, back, hf, hb, he⟩ := Text.exists_blanks_trimChars s.toList
  rw [hasOuterWhere, hasOuterWhere, Text.toList_trim, he, hasWhereFrom_append_blanks _ _ _ hb,
    hasWhereFrom_blanks_append isQuote_of_start hf, ← he]

theorem foldl_step_trim (s : String) :
    (Text.trim s).toList.foldl Scan.step .start = s.toList.foldl Scan.step .start := by
  obtain ⟨front, back, hf, hb, he⟩ := Text.exists_blanks_trimChars s.toList
  rw [Text.toList_trim, he, List.foldl_append, List.foldl_append,
    foldl_step_of_blanks isQuote_of_start hf, foldl_step_of_blanks (isQuote_of_scan _) hb, ← he]

/-- Behind a space the search goes on where the scan of the text stands. -/
theorem hasOuterWhere_spaced (s t : String) :
    hasOuterWhere (s ++ " " ++ t) =
      (hasOuterWhere s || hasWhereFrom (s.toList.foldl Scan.step .start) false t.toList) := by
  have hsplit : (s ++ " " ++ t).toList = s.toList ++ ' ' :: t.toList := by simp
  rw [hasOuterWhere, hsplit, hasWhereFrom_append_break _ _ rfl,
    step_of_isBlank (isQuote_of_scan _) rfl]
  rfl

/-- A text that leaves no parenthesis and no quote open. -/
def Balanced (text : String) : Prop := text.toList.foldl Scan.step .start = .start

instance (text : String) : Decidable (Balanced text) :=
  inferInstanceAs (Decidable (_ = _))

theorem Balanced.append_space {s t : String} (hs : Balanced s) (ht : Balanced t) :
    Balanced (s ++ " " ++ t) := by
  have hspace : Scan.start.step ' ' = .start := rfl
  simp only [Balanced, String.toList_append, List.foldl_append] at *
  rw [hs]
  exact (congrArg (t.toList.foldl Scan.step) hspace).trans ht

/-- Behind a balanced text and a space the search for a `where` starts anew. -/
theorem Balanced.hasOuterWhere_append_space {s : String} (hs : Balanced s) (t : String) :
    hasOuterWhere (s ++ " " ++ t) = (hasOuterWhere s || hasOuterWhere t) := by
  rw [hasOuterWhere_spaced, hs]
  rfl

instance (base : String) : Decidable (OuterWhere base) :=
  decidable_of_iff _ (hasOuterWhere_iff base)

end SqlMapper.Select
