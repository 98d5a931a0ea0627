import SqlMapper.Proofs.Select.Run

/-! Statements as a server reads them: plain text, parentheses, identifiers and literals. Inside its
marks a literal may double the mark or escape any character. The search for a `where` knows the
doubled marks only, and takes the first escaped mark for the end of its literal. -/

namespace SqlMapper.Select

def isPlain (c : Char) : Bool :=
  !Scan.isQuote c && c != '(' && c != ')'

structure PlainText where
  chars : List Char
  plain : chars.all isPlain = true

/-- What encloses a literal or, for the last, an identifier. -/
inductive Mark where
  | apostrophe
  | quotation
  | backtick

namespace Mark

def char : Mark → Char
  | apostrophe => '\''
  | quotation => '"'
  | backtick => '\x60'

/-- Identifiers have no escapes. -/
def escapes : Mark → Bool
  | backtick => false
  | _ => true

end Mark

/-- A part of what stands between two marks. -/
inductive Part (m : Mark) where
  | ordinary (c : Char) (h : c ≠ m.char ∧ (m.escapes = true → c ≠ '\\'))
  | doubled
  | escaped (c : Char) (h : m.escapes = true)

namespace Part

variable {m : Mark}

def chars : Part m → List Char
  | ordinary c _ => [c]
  | doubled => [m.char, m.char]
  | escaped c _ => ['\\', c]

def escapesMark : Part m → Bool
  | escaped c _ => c == m.char
  | _ => false

end Part

/-- A literal up to the first escape of its own mark. -/
def upToEscape (m : Mark) (body : List (Part m)) : String :=
  String.ofList (m.char :: (body.flatMap Part.chars ++ ['\\', m.char]))

/-- A statement by its parts, each after some plain text. -/
inductive Lexed where
  | plain (run : PlainText)
  | parens (run : PlainText) (inner rest : Lexed)
  | quoted (run : PlainText) (m : Mark) (body : List (Part m)) (rest : Lexed)

namespace Lexed

def chars : Lexed → List Char
  | plain run => run.chars
  | parens run inner rest => run.chars ++ '(' :: (inner.chars ++ ')' :: rest.chars)
  | quoted run m body rest =>
    run.chars ++ m.char :: (body.flatMap Part.chars ++ m.char :: rest.chars)

def text (t : Lexed) : String :=
  String.ofList t.chars

/-- The plain text outside parentheses, identifiers and literals. -/
def runs : Lexed → List PlainText
  | plain run => [run]
  | parens run _ rest => run :: rest.runs
  | quoted run _ _ rest => run :: rest.runs

/-- No literal, inside parentheses or not, escapes its own mark. -/
def Unescaped : Lexed → Prop
  | plain _ => True
  | parens _ inner rest => inner.Unescaped ∧ rest.Unescaped
  | quoted _ _ body rest => (∀ p ∈ body, p.escapesMark = false) ∧ rest.Unescaped

/-- The plain text has the word. -/
def HasWhere (t : Lexed) : Prop :=
  ∃ run ∈ t.runs, ∃ before word after, WhereBetween run.chars before word after

end Lexed

theorem isWordChar_mark (m : Mark) : Text.isWordChar m.char = false := by
  cases m <;> rfl

theorem isQuote_mark (m : Mark) : Scan.isQuote m.char = true := by
  cases m <;> rfl

theorem slash_ne_mark (m : Mark) : '\\' ≠ m.char := by
  cases m <;> decide

theorem step_open (depth : Int) : Scan.step ⟨depth, none⟩ '(' = ⟨depth + 1, none⟩ := rfl

theorem step_close (depth : Int) : Scan.step ⟨depth + 1, none⟩ ')' = ⟨depth, none⟩ := by
  simp [Scan.step, Scan.isQuote]

theorem step_mark (depth : Int) (m : Mark) :
    Scan.step ⟨depth, none⟩ m.char = ⟨depth, some m.char⟩ := by
  simp [Scan.step, isQuote_mark]

theorem step_same (depth : Int) (q : Char) : Scan.step ⟨depth, some q⟩ q = ⟨depth, none⟩ := by
  simp [Scan.step]

theorem step_other (depth : Int) {q c : Char} (h : c ≠ q) :
    Scan.step ⟨depth, some q⟩ c = ⟨depth, some q⟩ := by
  simp [Scan.step, h]

theorem step_of_isPlain (depth : Int) {c : Char} (h : isPlain c = true) :
    Scan.step ⟨depth, none⟩ c = ⟨depth, none⟩ := by
  obtain ⟨⟨hquote, hopen⟩, hclose⟩ :
      (Scan.isQuote c = false ∧ c ≠ '(') ∧ c ≠ ')' := by simpa [isPlain] using h
  simp [Scan.step, hquote, hopen, hclose]

theorem foldl_step_of_plain (depth : Int) {cs : List Char} (h : ∀ c ∈ cs, isPlain c = true) :
    cs.foldl Scan.step ⟨depth, none⟩ = ⟨depth, none⟩ := by
  induction cs with
  | nil => rfl
  | cons c cs ih =>
    obtain ⟨hc, hrest⟩ := List.forall_mem_cons.mp h
    rw [List.foldl_cons, step_of_isPlain depth hc, ih hrest]

theorem PlainText.isPlain_of_mem (run : PlainText) {c : Char} (h : c ∈ run.chars) :
    isPlain c = true :=
  List.all_eq_true.mp run.plain c h

theorem PlainText.foldl_step (run : PlainText) (depth : Int) :
    run.chars.foldl Scan.step ⟨depth, none⟩ = ⟨depth, none⟩ :=
  foldl_step_of_plain depth fun _ => run.isPlain_of_mem

theorem foldl_step_before (depth : Int) {run : PlainText} {before word after : List Char}
    (h : WhereBetween run.chars before word after) :
    before.foldl Scan.step ⟨depth, none⟩ = ⟨depth, none⟩ :=
  foldl_step_of_plain depth fun c hc => run.isPlain_of_mem (by simp [h.split, hc])

theorem hasWhereFrom_of_plain {depth : Int} (hd : 0 ≤ depth) (run : PlainText) :
    hasWhereFrom ⟨depth, none⟩ false run.chars =
      (depth == 0 && hasWhereFrom .start false run.chars) := by
  by_cases hzero : depth = 0
  · subst hzero
    rfl
  · have hnone : hasWhereFrom ⟨depth, none⟩ false run.chars = false := by
      apply Bool.eq_false_iff.mpr
      intro hw
      obtain ⟨before, word, after, h, -, htop⟩ := (hasWhereFrom_iff _ _ _).mp hw
      rw [foldl_step_before depth h] at htop
      have hle : depth ≤ 0 := by simpa [Scan.isTopLevel] using htop
      omega
    simp [hnone, hzero]

theorem hasWhereFrom_plain_iff (run : PlainText) :
    hasWhereFrom .start false run.chars = true ↔
      ∃ before word after, WhereBetween run.chars before word after := by
  rw [hasWhereFrom_iff]
  constructor
  · rintro ⟨before, word, after, h, -, -⟩
    exact ⟨before, word, after, h⟩
  · rintro ⟨before, word, after, h⟩
    refine ⟨before, word, after, h, fun _ => rfl, ?_⟩
    rw [Scan.start, foldl_step_before 0 h]
    rfl

/-- Between two marks no word counts. -/
theorem hasWhereFrom_cons_quoted (depth : Int) (q : Char) (inWord : Bool) (c : Char)
    (cs : List Char) :
    hasWhereFrom ⟨depth, some q⟩ inWord (c :: cs) =
      hasWhereFrom (Scan.step ⟨depth, some q⟩ c) (Text.isWordChar c) cs := by
  simp [hasWhereFrom, Scan.isTopLevel]

section Body

variable {m : Mark} (depth : Int)

theorem foldl_step_part {p : Part m} (h : p.escapesMark = false) :
    p.chars.foldl Scan.step ⟨depth, some m.char⟩ = ⟨depth, some m.char⟩ := by
  cases p with
  | ordinary c hc => exact step_other depth hc.1
  | doubled => simp [Part.chars, step_same, step_mark]
  | escaped c hc =>
    have hmark : c ≠ m.char := by simpa [Part.escapesMark] using h
    simp [Part.chars, step_other depth (slash_ne_mark m), step_other depth hmark]

theorem foldl_step_body {body : List (Part m)} (h : ∀ p ∈ body, p.escapesMark = false) :
    (body.flatMap Part.chars).foldl Scan.step ⟨depth, some m.char⟩ = ⟨depth, some m.char⟩ := by
  induction body with
  | nil => rfl
  | cons p body ih =>
    obtain ⟨hp, hrest⟩ := List.forall_mem_cons.mp h
    rw [List.flatMap_cons, List.foldl_append, foldl_step_part depth hp, ih hrest]

theorem hasWhereFrom_part_append {p : Part m} (h : p.escapesMark = false) {cs : List Char}
    (hcs : ∀ inWord, hasWhereFrom ⟨depth, some m.char⟩ inWord cs = false) (inWord : Bool) :
    hasWhereFrom ⟨depth, some m.char⟩ inWord (p.chars ++ cs) = false := by
  cases p with
  | ordinary c hc =>
    rw [Part.chars, List.singleton_append, hasWhereFrom_cons_quoted, step_other depth hc.1, hcs]
  | doubled =>
    -- between the two marks nothing is open, but the second one begins no word
    rw [Part.chars, List.cons_append, List.singleton_append, hasWhereFrom_cons_quoted, step_same,
      hasWhereFrom_cons_break _ _ (isWordChar_mark m), step_mark, hcs]
  | escaped c hc =>
    have hmark : c ≠ m.char := by simpa [Part.escapesMark] using h
    rw [Part.chars, List.cons_append, List.singleton_append, hasWhereFrom_cons_quoted,
      step_other depth (slash_ne_mark m), hasWhereFrom_cons_quoted, step_other depth hmark, hcs]

theorem hasWhereFrom_body {body : List (Part m)} (h : ∀ p ∈ body, p.escapesMark = false)
    (inWord : Bool) :
    hasWhereFrom ⟨depth, some m.char⟩ inWord (body.flatMap Part.chars) = false := by
  induction body generalizing inWord with
  | nil => rfl
  | cons p body ih =>
    obtain ⟨hp, hrest⟩ := List.forall_mem_cons.mp h
    rw [List.flatMap_cons]
    exact hasWhereFrom_part_append depth hp (ih hrest) inWord

end Body

namespace Lexed

theorem foldl_step_chars {t : Lexed} (h : t.Unescaped) (depth : Int) :
    t.chars.foldl Scan.step ⟨depth, none⟩ = ⟨depth, none⟩ := by
  induction t generalizing depth with
  | plain run => exact run.foldl_step depth
  | parens run inner rest ihInner ihRest =>
    rw [chars, List.foldl_append, run.foldl_step, List.foldl_cons, step_open,
      List.foldl_append, ihInner h.1, List.foldl_cons, step_close, ihRest h.2]
  | quoted run m body rest ih =>
    rw [chars, List.foldl_append, run.foldl_step, List.foldl_cons, step_mark,
      List.foldl_append, foldl_step_body depth h.1, List.foldl_cons, step_same, ih h.2]

/-- The search sees the plain text outside parentheses, and nothing else. -/
theorem hasWhereFrom_chars {t : Lexed} (h : t.Unescaped) {depth : Int} (hd : 0 ≤ depth) :
    hasWhereFrom ⟨depth, none⟩ false t.chars =
      (depth == 0 && t.runs.any fun run => hasWhereFrom .start false run.chars) := by
  induction t generalizing depth with
  | plain run => simp [chars, runs, hasWhereFrom_of_plain hd]
  | parens run inner rest ihInner ihRest =>
    have hdeep : (depth + 1 == 0) = false := by simp; omega
    rw [chars, hasWhereFrom_append_break _ _ rfl, run.foldl_step, step_open,
      hasWhereFrom_append_break _ _ rfl, foldl_step_chars h.1, step_close,
      hasWhereFrom_of_plain hd, ihInner h.1 (by omega), ihRest h.2 hd, hdeep, runs, List.any_cons,
      Bool.false_and, Bool.false_or, Bool.and_or_distrib_left]
  | quoted run m body rest ih =>
    rw [chars, hasWhereFrom_append_break _ _ (isWordChar_mark m),
      run.foldl_step, step_mark,
      hasWhereFrom_append_break _ _ (isWordChar_mark m), foldl_step_body depth h.1, step_same,
      hasWhereFrom_body depth h.1, hasWhereFrom_of_plain hd, ih h.2 hd, runs, List.any_cons,
      Bool.false_or, Bool.and_or_distrib_left]

theorem any_runs_iff (t : Lexed) :
    (t.runs.any fun run => hasWhereFrom .start false run.chars) = true ↔ t.HasWhere := by
  simp only [List.any_eq_true, hasWhereFrom_plain_iff, HasWhere]

instance (t : Lexed) : Decidable t.HasWhere :=
  decidable_of_iff _ t.any_runs_iff

theorem hasOuterWhere_text_iff {t : Lexed} (h : t.Unescaped) :
    hasOuterWhere t.text = true ↔ t.HasWhere := by
  rw [← any_runs_iff, hasOuterWhere, text, String.toList_ofList, Scan.start,
    hasWhereFrom_chars h (Int.le_refl 0)]
  rfl

/-- The search stands where the escape has left it: outside of the literal. -/
theorem hasOuterWhere_append_upToEscape {t : Lexed} (h : t.Unescaped) {m : Mark}
    {body : List (Part m)} (hbody : ∀ p ∈ body, p.escapesMark = false) (more : String) :
    hasOuterWhere (t.text ++ upToEscape m body ++ more) =
      (hasOuterWhere t.text || hasOuterWhere more) := by
  have hsplit : (t.text ++ upToEscape m body ++ more).toList =
      t.chars ++ m.char :: (body.flatMap Part.chars ++ '\\' :: m.char :: more.toList) := by
    simp [text, upToEscape]
  rw [hasOuterWhere, hsplit, Scan.start, hasWhereFrom_append_break _ _ (isWordChar_mark m),
    foldl_step_chars h, step_mark, hasWhereFrom_append_break _ _ rfl, hasWhereFrom_body 0 hbody,
    foldl_step_body 0 hbody, step_other 0 (slash_ne_mark m),
    hasWhereFrom_cons_break _ _ (isWordChar_mark m), step_same]
  simp [hasOuterWhere, text, Scan.start]

/-- A statement that escapes no mark gets a `where` unless its plain text has one. Behind an escaped
mark the rest of the literal, and all that follows, is searched as a statement of its own. -/
theorem sql_ofBase_text {t : Lexed} (h : t.Unescaped) :
    (ofBase t.text).sql =
        (if t.HasWhere then Text.trim t.text else joinSql (Text.trim t.text) "WHERE 1=1") ∧
      ∀ (m : Mark) (body : List (Part m)), (∀ p ∈ body, p.escapesMark = false) →
        ∀ more : String,
          OuterWhere (t.text ++ upToEscape m body ++ more) ↔ t.HasWhere ∨ OuterWhere more := by
  refine ⟨?_, fun m body hbody more => ?_⟩
  · rw [sql_ofBase_eq]
    simp only [hasOuterWhere_text_iff h]
  · rw [← hasOuterWhere_iff, hasOuterWhere_append_upToEscape h hbody, Bool.or_eq_true,
      hasOuterWhere_text_iff h, hasOuterWhere_iff]

/-- The literal doubles its mark and escapes another one, and the `where` stands in parentheses. -/
theorem sql_ofBase_text_subquery :
    let t : Lexed := .quoted ⟨"select ".toList, by decide⟩ .apostrophe
      [.ordinary '(' (by decide), .doubled, .escaped '"' rfl]
      (.parens ⟨" from ".toList, by decide⟩ (.plain ⟨"select 1 where 2".toList, by decide⟩)
        (.plain ⟨" t ".toList, by decide⟩))
    t.Unescaped ∧
      (ofBase t.text).sql = "select '(''\\\"' from (select 1 where 2) t WHERE 1=1" ∧
      ¬ OuterWhere (t.text ++ upToEscape .apostrophe [.ordinary 'i' (by decide), .doubled] ++
        "s' where a = 1") := by
  intro t
  have h : t.Unescaped := ⟨by decide, trivial, trivial⟩
  exact ⟨h, (sql_ofBase_text h).1.trans (by decide),
    mt ((sql_ofBase_text h).2 _ _ (by decide) _).mp (by decide)⟩

/-- The `where` stands outside the literal, whose mark is escaped once, and yet another is
appended. -/
theorem where_after_escaped_mark :
    ∃ t : Lexed, t.text = "select 'it\\'s' from t where a = 1" ∧ t.HasWhere ∧
      (ofBase t.text).sql = "select 'it\\'s' from t where a = 1 WHERE 1=1" := by
  refine ⟨.quoted ⟨"select ".toList, by decide⟩ .apostrophe
    [.ordinary 'i' (by decide), .ordinary 't' (by decide), .escaped '\'' rfl,
      .ordinary 's' (by decide)]
    (.plain ⟨" from t where a = 1".toList, by decide⟩), ?_, ?_, ?_⟩ <;> decide

end Lexed

end SqlMapper.Select
