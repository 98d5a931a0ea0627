import SqlMapper.Proofs.Condition.Render
import SqlMapper.Text.Ascii

/-! Conditions are read back from their text. A column ends at the first blank, no operator begins
with another one, and the placeholders of a list tell how many values it takes, so that a
condition is found at the front of whatever it is written in front of. -/

namespace SqlMapper

/-- A condition that is not left out, with the values that it binds. -/
structure Clause where
  column : String
  keyword : Keyword
  values : List SqlValue

namespace Clause

structure WellFormed (c : Clause) : Prop where
  column : Text.isIdentifier c.column.toList = true
  takes : c.keyword.Takes c.values.length

def text (c : Clause) : String :=
  c.column ++ c.keyword.operator c.values.length

def fragment (c : Clause) (link : Link) : Fragment :=
  ⟨link, c.text, c.values⟩

end Clause

/-- A text that is yet to be read, and the values of its placeholders. -/
structure Unread where
  text : List Char
  values : List SqlValue

abbrev Parser (α : Type) := Unread → Option (α × Unread)

namespace Parser

/-- The reading takes `a` off every text and list of values that begin with these. -/
def Recovers (read : Parser α) (text : String) (values : List SqlValue) (a : α) : Prop :=
  ∀ rest more, read ⟨text.toList ++ rest, values ++ more⟩ = some (a, ⟨rest, more⟩)

/-- Reads as often as it can. A reading that takes no text is not repeated. -/
def many (read : Parser α) (u : Unread) : List α × Unread :=
  match read u with
  | none => ([], u)
  | some (a, rest) =>
    if rest.text.length < u.text.length then
      let (as, rest) := many read rest
      (a :: as, rest)
    else ([], u)
termination_by u.text.length

theorem many_join {read : Parser α} {text : α → String} {values : α → List SqlValue}
    {as : List α} {rest : List Char} {more : List SqlValue}
    (h : ∀ a ∈ as, read.Recovers (text a) (values a) a) (hne : ∀ a ∈ as, text a ≠ "")
    (hend : read ⟨rest, more⟩ = none) :
    many read ⟨(String.join (as.map text)).toList ++ rest, as.flatMap values ++ more⟩ =
      (as, ⟨rest, more⟩) := by
  induction as with
  | nil =>
    rw [many]
    simp [hend]
  | cons a as ih =>
    have hrest := ih (fun b hb => h b (by simp [hb])) fun b hb => hne b (by simp [hb])
    have ha := h a (by simp) ((String.join (as.map text)).toList ++ rest)
      (as.flatMap values ++ more)
    have hpos : 0 < (text a).toList.length :=
      List.length_pos_iff.mpr fun he => hne a (by simp) (by simpa using he)
    rw [many]
    simp only [List.map_cons, String.join_cons, String.toList_append, List.flatMap_cons,
      List.append_assoc, ha, hrest, List.length_append]
    rw [if_pos (by omega)]

end Parser

namespace Keyword

/-- An operator up to the placeholders of its list. -/
def opening (k : Keyword) : String :=
  if k.isList then if k = .notIn then " not in (" else " in (" else k.operator 0

def closing (k : Keyword) (n : Nat) : String :=
  if k.isList then placeholders "," n ++ ")" else ""

theorem operator_eq (k : Keyword) (n : Nat) : k.operator n = k.opening ++ k.closing n := by
  by_cases hl : k.isList = true <;> simp [operator, opening, closing, hl, String.append_assoc]

theorem mem_all (k : Keyword) : k ∈ all := by
  cases k <;> decide

theorem opening_prefix_free :
    ∀ j ∈ all, ∀ k ∈ all, j.opening.toList <+: k.opening.toList → j = k := by
  decide +kernel

def readMarks? : List Char → Option (Nat × List Char)
  | '?' :: ')' :: rest => some (1, rest)
  | '?' :: ',' :: rest => (readMarks? rest).map fun r => (r.1 + 1, r.2)
  | _ => none

theorem readMarks?_placeholders (n : Nat) (rest : List Char) :
    readMarks? ((placeholders "," (n + 1)).toList ++ ')' :: rest) = some (n + 1, rest) := by
  induction n with
  | zero => rfl
  | succ n ih =>
    have hp : placeholders "," (n + 2) = "?," ++ placeholders "," (n + 1) := by
      simp [placeholders, List.replicate_succ, String.intercalate_cons_cons]
    have hc : (placeholders "," (n + 2)).toList ++ ')' :: rest =
        '?' :: ',' :: ((placeholders "," (n + 1)).toList ++ ')' :: rest) := by
      simp [hp]
    rw [hc, readMarks?, ih, Option.map_some]

/-- The operator at the front of a text, how many values it takes, and the text after it. -/
def read? (cs : List Char) : Option (Keyword × Nat × List Char) := do
  let k ← all.find? fun k => k.opening.toList.isPrefixOf cs
  let rest := cs.drop k.opening.toList.length
  if k.isList then
    let (n, rest) ← readMarks? rest
    some (k, n, rest)
  else some (k, if k.isRange then 2 else 1, rest)

theorem find?_opening (k : Keyword) (rest : List Char) :
    (all.find? fun j => j.opening.toList.isPrefixOf (k.opening.toList ++ rest)) = some k := by
  obtain ⟨j, hj⟩ : ∃ j,
      (all.find? fun j => j.opening.toList.isPrefixOf (k.opening.toList ++ rest)) = some j := by
    rw [← Option.isSome_iff_exists, List.find?_isSome]
    exact ⟨k, mem_all k, by simp⟩
  have hp : j.opening.toList <+: k.opening.toList ++ rest := by
    simpa using List.find?_some hj
  -- two openings of one text are beginnings of one another
  have he : j = k := by
    rcases List.prefix_or_prefix_of_prefix hp (List.prefix_append _ rest) with h | h
    · exact opening_prefix_free j (mem_all j) k (mem_all k) h
    · exact (opening_prefix_free k (mem_all k) j (mem_all j) h).symm
  rw [hj, he]

theorem read?_operator {k : Keyword} {n : Nat} (h : k.Takes n) (rest : List Char) :
    read? ((k.operator n).toList ++ rest) = some (k, n, rest) := by
  have hd : ((k.operator n).toList ++ rest).drop k.opening.toList.length =
      (k.closing n).toList ++ rest := by
    simp [operator_eq]
  have hk : (all.find? fun j => j.opening.toList.isPrefixOf ((k.operator n).toList ++ rest)) =
      some k := by
    rw [operator_eq, String.toList_append, List.append_assoc]
    exact find?_opening k _
  by_cases hl : k.isList = true
  · obtain ⟨m, rfl⟩ : ∃ m, n = m + 1 := by
      have hn : 0 < n := by simpa [Takes, hl] using h
      exact ⟨n - 1, by omega⟩
    have hm := readMarks?_placeholders m rest
    simp [read?, hk, hd, hl, closing, hm]
  · have hn : n = if k.isRange then 2 else 1 := by
      by_cases hr : k.isRange = true <;> simpa [Takes, hl, hr] using h
    simp [read?, hk, hd, hl, closing, ← hn]

theorem head?_operator (k : Keyword) (n : Nat) : (k.operator n).toList.head? = some ' ' := by
  have hh : k.opening.toList.head? = some ' ' := by cases k <;> decide
  rw [operator_eq, String.toList_append, List.head?_append, hh, Option.some_or]

end Keyword

namespace Clause

theorem text_append_ne {c : Clause} (h : c.WellFormed) (rest cs : List Char) :
    c.text.toList ++ rest ≠ '(' :: cs := by
  intro he
  cases hd : c.column.toList with
  | nil => exact absurd h.column (by simp [hd, Text.isIdentifier])
  | cons d ds =>
    obtain rfl : d = '(' := by
      rw [text, String.toList_append, hd] at he
      exact (List.cons.inj he).1
    exact absurd (Text.alphanum_of_mem_identifier h.column (hd ▸ List.mem_cons_self)) (by decide)

def read : Parser Clause := fun u => do
  let column := u.text.takeWhile (· != ' ')
  let (k, n, rest) ← Keyword.read? (u.text.drop column.length)
  some (⟨String.ofList column, k, u.values.take n⟩, ⟨rest, u.values.drop n⟩)

theorem read_recovers {c : Clause} (h : c.WellFormed) : read.Recovers c.text c.values c := by
  intro rest more
  obtain ⟨cs, hop⟩ : ∃ cs, (c.keyword.operator c.values.length).toList = ' ' :: cs :=
    List.head?_eq_some_iff.mp (c.keyword.head?_operator c.values.length)
  have hcol : ∀ d ∈ c.column.toList, (d != ' ') = true := by
    intro d hd
    rw [bne_iff_ne]
    rintro rfl
    exact absurd (Text.alphanum_of_mem_identifier h.column hd) (by decide)
  have htext : c.text.toList ++ rest =
      c.column.toList ++ ((c.keyword.operator c.values.length).toList ++ rest) := by
    rw [text, String.toList_append, List.append_assoc]
  have htake : (c.text.toList ++ rest).takeWhile (· != ' ') = c.column.toList := by
    rw [htext, List.takeWhile_append_of_pos hcol, hop, List.cons_append]
    simp
  have hk := Keyword.read?_operator h.takes rest
  simp only [read, htake]
  simp [htext, hk]

end Clause

def Link.joint (link : Link) : String :=
  " " ++ link.word ++ " "

def Link.read? : List Char → Option (Link × List Char)
  | ' ' :: 'a' :: 'n' :: 'd' :: ' ' :: rest => some (.and, rest)
  | ' ' :: 'o' :: 'r' :: ' ' :: rest => some (.or, rest)
  | _ => none

namespace Parser

def linked (read : Parser α) : Parser (Link × α) := fun u => do
  let (link, text) ← Link.read? u.text
  let (a, u) ← read ⟨text, u.values⟩
  some ((link, a), u)

theorem Recovers.linked {read : Parser α} {text : String} {values : List SqlValue} {a : α}
    (h : read.Recovers text values a) (link : Link) :
    read.linked.Recovers (link.joint ++ text) values (link, a) := by
  intro rest more
  have hl : Link.read? (link.joint.toList ++ (text.toList ++ rest)) =
      some (link, text.toList ++ rest) := by
    cases link <;> rfl
  have ha := h rest more
  simp [Parser.linked, hl, ha]

end Parser

end SqlMapper
