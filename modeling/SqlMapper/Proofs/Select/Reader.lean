import SqlMapper.Proofs.Condition.Reader
import SqlMapper.Proofs.Select.Applied

/-! The conditions of a statement are read back from it. What a statement asks besides its base is
a sequence of conditions and of groups of conditions, each with the link before it; where only
these were called for, the text and the values of the statement decide the sequence. -/

namespace SqlMapper

theorem map_addedFrom {add : List α → α → List β} {add' : List α → α → List γ} {f : β → δ}
    {g : γ → δ} {calls : List α}
    (h : ∀ earlier, ∀ c ∈ calls, (add earlier c).map f = (add' earlier c).map g)
    (earlier : List α) :
    (addedFrom add earlier calls).map f = (addedFrom add' earlier calls).map g := by
  induction calls generalizing earlier with
  | nil => rfl
  | cons c cs ih =>
    have hc := h earlier c List.mem_cons_self
    have hcs := ih (fun earlier d hd => h earlier d (List.mem_cons_of_mem c hd)) (earlier ++ [c])
    rw [addedFrom, addedFrom, List.map_append, List.map_append, hc, hcs]

namespace Group

def Step.Plain : Step → Prop
  | .condition column _ _ => Text.isIdentifier column.toList = true
  | .nextLink _ => True
  | .push _ => False

instance : DecidablePred Step.Plain
  | .condition _ _ _ => inferInstanceAs (Decidable (_ = true))
  | .nextLink _ => .isTrue trivial
  | .push _ => .isFalse id

def Step.clause? (link : Link) : Step → Option (Link × Clause)
  | .condition column k value =>
    (k.bound? value).map fun values => (link, ⟨column, k, values⟩)
  | _ => none

def clauses (steps : List Step) : List (Link × Clause) :=
  addedFrom (fun earlier s => (s.clause? (pending earlier)).toList) [] steps

theorem collected_eq {steps : List Step} (h : ∀ s ∈ steps, s.Plain) :
    collected steps = (clauses steps).map fun c => c.2.fragment c.1 := by
  rw [← List.map_id (collected steps)]
  refine map_addedFrom (fun earlier s hs => ?_) []
  cases s with
  | condition column k value =>
    simp only [Step.fragment?, Step.clause?, Fragment.rendered?_eq]
    cases k.bound? value <;> rfl
  | nextLink link => rfl
  | push f => exact absurd (h _ hs) (by simp [Step.Plain])

theorem wellFormed_of_mem_clauses {steps : List Step} (h : ∀ s ∈ steps, s.Plain)
    {c : Link × Clause} (hc : c ∈ clauses steps) : c.2.WellFormed := by
  obtain ⟨before, s, hs, hm⟩ := exists_of_mem_addedFrom hc
  cases s with
  | condition column k value =>
    obtain ⟨values, hv, rfl⟩ := Option.map_eq_some_iff.mp (Option.mem_toList.mp hm)
    exact ⟨h _ hs, Keyword.takes_of_bound? hv⟩
  | nextLink link => simp [Step.clause?] at hm
  | push f => simp [Step.clause?] at hm

end Group

namespace Select

inductive Item where
  | single (c : Clause)
  | group (first : Clause) (rest : List (Link × Clause))

namespace Item

def WellFormed : Item → Prop
  | .single c => c.WellFormed
  | .group first rest => first.WellFormed ∧ ∀ c ∈ rest, c.2.WellFormed

def text : Item → String
  | .single c => c.text
  | .group first rest =>
    "(" ++ first.text ++ String.join (rest.map fun c => c.1.joint ++ c.2.text) ++ ")"

def values : Item → List SqlValue
  | .single c => c.values
  | .group first rest => first.values ++ rest.flatMap fun c => c.2.values

def read : Parser Item := fun u =>
  match u.text with
  | '(' :: text => do
    let (first, u) ← Clause.read ⟨text, u.values⟩
    let (rest, u) := Clause.read.linked.many u
    match u.text with
    | ')' :: text => some (.group first rest, ⟨text, u.values⟩)
    | _ => none
  | _ => do
    let (c, u) ← Clause.read u
    some (.single c, u)

theorem read_recovers {i : Item} (h : i.WellFormed) : read.Recovers i.text i.values i := by
  intro rest more
  cases i with
  | single c =>
    have hc := Clause.read_recovers h rest more
    -- no column begins with a parenthesis, so this is not taken for a group
    have hne : ∀ cs, c.text.toList ++ rest ≠ '(' :: cs :=
      fun cs => Clause.text_append_ne h rest cs
    simp [read, text, values, hc]
  | group first others =>
    obtain ⟨hfirst, hothers⟩ := h
    have htext : (Item.group first others).text.toList ++ rest = '(' :: (first.text.toList ++
        ((String.join (others.map fun c => c.1.joint ++ c.2.text)).toList ++ ')' :: rest)) := by
      simp [text]
    have hf := Clause.read_recovers hfirst
      ((String.join (others.map fun c => c.1.joint ++ c.2.text)).toList ++ ')' :: rest)
      ((others.flatMap fun c => c.2.values) ++ more)
    have ho : Clause.read.linked.many
        ⟨(String.join (others.map fun c => c.1.joint ++ c.2.text)).toList ++ ')' :: rest,
          (others.flatMap fun c => c.2.values) ++ more⟩ = (others, ⟨')' :: rest, more⟩) := by
      refine Parser.many_join (fun c hc => ?_) (fun c hc => ?_) rfl
      · exact (Clause.read_recovers (hothers c hc)).linked c.1
      · simp [Link.joint]
    simp only [read, htext, values, List.append_assoc, hf, ho, Option.bind_eq_bind,
      Option.bind_some]

end Item

/-- Conditions over bare columns, links, and groups of these, but no text of the caller's own. -/
def Call.Plain : Call → Prop
  | .condition column _ _ => Text.isIdentifier column.toList = true
  | .nextLink _ => True
  | .append _ _ => False
  | .group _ steps => ∀ s ∈ steps, s.Plain

instance : DecidablePred Call.Plain
  | .condition _ _ _ => inferInstanceAs (Decidable (_ = true))
  | .nextLink _ => .isTrue trivial
  | .append _ _ => .isFalse id
  | .group _ steps => inferInstanceAs (Decidable (∀ s ∈ steps, s.Plain))

/-- The link of a group stands before it; that of its first condition has no place in it. -/
def Call.item? (link : Link) : Call → Option (Link × Item)
  | .condition column k value =>
    (k.bound? value).map fun values => (link, .single ⟨column, k, values⟩)
  | .group word steps =>
    match Group.clauses steps with
    | [] => none
    | first :: rest => some (word, .group first.2 rest)
  | _ => none

/-- The conditions and groups that are not left out, each with the link before it. -/
def effective (steps : List Step) : List (Link × Item) :=
  addedFrom (fun earlier c => (c.item? (pending earlier)).toList) [] (steps.flatMap Step.calls)

theorem wellFormed_of_mem_effective {steps : List Step}
    (h : ∀ c ∈ steps.flatMap Step.calls, c.Plain) {i : Link × Item} (hi : i ∈ effective steps) :
    i.2.WellFormed := by
  obtain ⟨before, c, hc, hm⟩ := exists_of_mem_addedFrom hi
  cases c with
  | condition column k value =>
    obtain ⟨values, hv, rfl⟩ := Option.map_eq_some_iff.mp (Option.mem_toList.mp hm)
    exact ⟨h _ hc, Keyword.takes_of_bound? hv⟩
  | nextLink link => simp [Call.item?] at hm
  | append text values => simp [Call.item?] at hm
  | group word steps =>
    have hw : ∀ c ∈ Group.clauses steps, c.2.WellFormed := fun c hmem =>
      Group.wellFormed_of_mem_clauses (h _ hc) hmem
    cases hs : Group.clauses steps with
    | nil => simp [Call.item?, hs] at hm
    | cons first rest =>
      rw [hs] at hw
      obtain rfl : i = (word, .group first.2 rest) := by simpa [Call.item?, hs] using hm
      exact ⟨hw first List.mem_cons_self, fun c hmem => hw c (List.mem_cons_of_mem first hmem)⟩

def Item.spelled (i : Link × Item) : String :=
  i.1.word ++ " " ++ i.2.text

theorem Item.space_append_spelled (i : Link × Item) :
    " " ++ spelled i = i.1.joint ++ i.2.text := by
  simp only [spelled, Link.joint, String.append_assoc]

theorem text_group (word link : Link) (first : Clause) (rest : List (Link × Clause)) :
    (Piece.group word (first.fragment link) (rest.map fun c => c.2.fragment c.1)).text =
      word.word ++ " " ++ (Item.group first rest).text := by
  have hparen : " (" = " " ++ "(" := rfl
  rw [Piece.text, ← Group.body_eq_intercalate, Group.body, hparen]
  simp only [Item.text, Link.joint, Clause.fragment, String.append_assoc, List.map_map,
    Function.comp_def]

theorem map_pieces {steps : List Step} (h : ∀ c ∈ steps.flatMap Step.calls, c.Plain) :
    (pieces (steps.flatMap Step.calls)).map (fun p => (p.text, p.values)) =
      (effective steps).map fun i => (Item.spelled i, i.2.values) := by
  refine map_addedFrom (fun earlier c hc => ?_) []
  cases c with
  | condition column k value =>
    simp only [Call.piece?, Call.item?, Fragment.rendered?_eq]
    cases k.bound? value <;> rfl
  | nextLink link => rfl
  | append text values => exact absurd (h _ hc) (by simp [Call.Plain])
  | group word steps =>
    simp only [Call.piece?, Call.item?, Group.collected_eq (h _ hc)]
    cases Group.clauses steps with
    | nil => rfl
    | cons first rest =>
      simp only [List.map_cons, Option.toList_some, List.map_nil, text_group]
      simp [Piece.values, Item.spelled, Item.values, Clause.fragment, List.flatMap_map]

/-- What follows the opening of a statement, with a space before each of its pieces. -/
def afterOpening (opening sql : String) : List Char :=
  if opening.isEmpty then if sql.isEmpty then [] else ' ' :: sql.toList
  else sql.toList.drop opening.toList.length

theorem afterOpening_written (os : List Piece) {ps : List Piece} (h : ∀ p ∈ ps, p.text ≠ "") :
    afterOpening (written os) (written (os ++ ps)) =
      (String.join (ps.map fun p => " " ++ p.text)).toList := by
  have hps : (ps.map Piece.text).filter (fun t => !t.isEmpty) = ps.map Piece.text := by
    refine List.filter_eq_self.mpr fun t ht => ?_
    obtain ⟨p, hp, rfl⟩ := List.mem_map.mp ht
    simpa using h p hp
  have hjoin : (ps.map fun p => " " ++ p.text) = (ps.map Piece.text).map fun t => " " ++ t := by
    rw [List.map_map]
    rfl
  rw [hjoin, written, written, List.map_append, List.filter_append, hps]
  cases hts : (os.map Piece.text).filter (fun t => !t.isEmpty) with
  | nil =>
    cases ps with
    | nil => rfl
    | cons p ps =>
      have hp : p.text ≠ "" := h p List.mem_cons_self
      simp [afterOpening, intercalate_cons, hp]
  | cons t ts =>
    have ht : t ≠ "" := by
      have hmem : t ∈ (os.map Piece.text).filter (fun t => !t.isEmpty) := by simp [hts]
      simpa using (List.mem_filter.mp hmem).2
    have hne : (t ++ String.join (ts.map fun t => " " ++ t)).isEmpty = false := by simp [ht]
    rw [List.cons_append, intercalate_cons, intercalate_cons, List.map_append, String.join_append,
      ← String.append_assoc, afterOpening, hne, String.toList_append, if_neg Bool.false_ne_true,
      List.drop_left']
    rfl

/-- Reads the conditions and groups of a statement over a known base. -/
def read? (base : Option String) (st : Statement) : Option (List (Link × Item)) :=
  match Item.read.linked.many ⟨afterOpening (written (opening base)) st.sql, st.params⟩ with
  | (items, ⟨[], []⟩) => some items
  | _ => none

theorem map_text_pieces {steps : List Step} (h : ∀ c ∈ steps.flatMap Step.calls, c.Plain) :
    (pieces (steps.flatMap Step.calls)).map Piece.text = (effective steps).map Item.spelled := by
  simpa [Function.comp_def] using congrArg (List.map Prod.fst) (map_pieces h)

theorem flatMap_values_pieces {steps : List Step}
    (h : ∀ c ∈ steps.flatMap Step.calls, c.Plain) :
    (pieces (steps.flatMap Step.calls)).flatMap Piece.values =
      (effective steps).flatMap fun i => i.2.values := by
  simpa [List.flatMap_map] using congrArg (List.flatMap Prod.snd) (map_pieces h)

theorem text_ne_of_mem_pieces {steps : List Step} (h : ∀ c ∈ steps.flatMap Step.calls, c.Plain)
    {p : Piece} (hp : p ∈ pieces (steps.flatMap Step.calls)) : p.text ≠ "" := by
  have hmem := List.mem_map_of_mem (f := Piece.text) hp
  rw [map_text_pieces h] at hmem
  obtain ⟨i, -, hi⟩ := List.mem_map.mp hmem
  rw [← hi]
  simp [Item.spelled]

theorem read?_build (base : Option String) {steps : List Step}
    (h : ∀ c ∈ steps.flatMap Step.calls, c.Plain) :
    read? base ((start base).run steps).build = some (effective steps) := by
  have htexts : ((pieces (steps.flatMap Step.calls)).map fun p => " " ++ p.text) =
      (effective steps).map fun i => " " ++ Item.spelled i := by
    have hh := congrArg (List.map fun t => " " ++ t) (map_text_pieces h)
    rwa [List.map_map, List.map_map] at hh
  have hread : Item.read.linked.many
      ⟨(String.join ((effective steps).map fun i => " " ++ Item.spelled i)).toList ++ [],
        ((effective steps).flatMap fun i => i.2.values) ++ []⟩ = (effective steps, ⟨[], []⟩) := by
    refine Parser.many_join (fun i hi => ?_) (fun i hi => by simp) rfl
    rw [Item.space_append_spelled]
    exact (Item.read_recovers (wellFormed_of_mem_effective h hi)).linked i.1
  rw [List.append_nil, List.append_nil] at hread
  simp only [read?, build, run_eq, flatMap_values_pieces h, htexts, hread,
    afterOpening_written _ fun p hp => text_ne_of_mem_pieces h hp]

/-- The text and the values of a statement decide its conditions and groups, and they are all that
the statement depends on. -/
theorem run_uniquely_readable (base : Option String) {steps : List Step}
    (h : ∀ c ∈ steps.flatMap Step.calls, c.Plain) :
    read? base ((start base).run steps).build = some (effective steps) ∧
      ∀ others : List Step, (∀ c ∈ others.flatMap Step.calls, c.Plain) →
        (((start base).run others).build = ((start base).run steps).build ↔
          effective others = effective steps) := by
  refine ⟨read?_build base h, fun others ho => ⟨fun he => ?_, fun he => ?_⟩⟩
  · have hread := read?_build base ho
    rw [he, read?_build base h] at hread
    exact (Option.some.inj hread).symm
  · have htexts : (pieces (others.flatMap Step.calls)).map Piece.text =
        (pieces (steps.flatMap Step.calls)).map Piece.text := by
      rw [map_text_pieces ho, map_text_pieces h, he]
    simp only [build, run_eq, written, List.map_append, htexts, flatMap_values_pieces ho,
      flatMap_values_pieces h, he]

/-- Columns that are themselves words of conditions. -/
def wordColumns : List Step :=
  [.condition "not" .isIn (.list [.int 1, .int 2]), .nextLink .or, .condition "in" .eq .null,
    .group .or [.nextLink .or, .condition "and" .between (.between (.int 3) (.int 4)),
      .nextLink .or, .condition "or" .likeRight (.text "x")]]

theorem run_wordColumns_readable :
    (∀ c ∈ wordColumns.flatMap Step.calls, c.Plain) ∧
      ((start (some "t")).run wordColumns).sql =
        "t WHERE 1=1 and not in (?,?) or (and between ? and ? or or like CONCAT(?, '%'))" ∧
      read? (some "t") ((start (some "t")).run wordColumns).build =
        some [(.and, .single ⟨"not", .isIn, [.int 1, .int 2]⟩),
          (.or, .group ⟨"and", .between, [.int 3, .int 4]⟩
            [(.or, ⟨"or", .likeRight, [.text "x"]⟩)])] := by
  have h : ∀ c ∈ wordColumns.flatMap Step.calls, c.Plain := by decide
  have hread := (run_uniquely_readable (some "t") h).1
  exact ⟨h, by rw [run_eq]; decide +kernel, hread⟩

end Select

end SqlMapper
