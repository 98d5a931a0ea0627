import SqlMapper.Proofs.Json.Order
import SqlMapper.Proofs.Json.Tokens

/-! JSON values read back from their own text. A value with whole numbers only and with its members
in order comes back as it was, up to the depth that is read at all. -/

namespace SqlMapper.Json

/-- Whether every number is whole. -/
def isWhole (j : Json) : Bool :=
  j.every (fun _ => true) fun
    | .number (.double ..) => false
    | _ => true

theorem isWhole_array {items : List Json} :
    isWhole (.array items) = true ↔ ∀ x ∈ items, x.isWhole = true := by
  simp [isWhole, every, everyItem_iff]

theorem isWhole_object {members : List (String × Json)} :
    isWhole (.object members) = true ↔ ∀ m ∈ members, m.2.isWhole = true := by
  simp [isWhole, every, everyMember_iff]

mutual

/-- How deep arrays and objects stand inside one another. -/
def nesting : Json → Nat
  | .array items => itemNesting items + 1
  | .object members => memberNesting members + 1
  | _ => 0

def itemNesting : List Json → Nat
  | [] => 0
  | x :: xs => max (nesting x) (itemNesting xs)

def memberNesting : List (String × Json) → Nat
  | [] => 0
  | (_, x) :: xs => max (nesting x) (memberNesting xs)

end

namespace Source

/-- The text begins with a character that is no blank and closes nothing. -/
def Starts (text : String) : Prop :=
  ∃ c cs, text.toList = c :: cs ∧ isSpace c = false ∧ c ≠ ']' ∧ c ≠ '}'

theorem Starts.append {s : String} (h : Starts s) (t : String) : Starts (s ++ t) := by
  obtain ⟨c, cs, hs, hc⟩ := h
  exact ⟨c, cs ++ t.toList, by rw [String.toList_append, hs, List.cons_append], hc⟩

theorem Starts.intercalate {text : String} (h : Starts text) (texts : List String) :
    Starts (",".intercalate (text :: texts)) := by
  cases texts with
  | nil =>
    rw [String.intercalate_singleton]
    exact h
  | cons t ts =>
    rw [String.intercalate_cons_cons, String.append_assoc]
    exact h.append _

theorem starts_of_append {text : String} {c : Char} {after : List Char → List Char}
    (h : ∀ rest, text.toList ++ rest = c :: after rest)
    (hc : isSpace c = false ∧ c ≠ ']' ∧ c ≠ '}') : Starts text :=
  ⟨c, after [], by rw [← h [], List.append_nil], hc⟩

theorem skipSpace_cons {c : Char} (h : isSpace c = false) (cs : List Char) :
    skipSpace (c :: cs) = c :: cs := by
  simp [skipSpace, h]

/-- A text that is read as one value in front of whatever may follow a value. -/
structure Spells (text : String) (x : Source) (j : Json) : Prop where
  starts : Starts text
  -- an entry and its value take a step each, so that two steps a character are enough
  reads : ∀ fuel rest, 2 * text.length ≤ fuel + 1 → EndsNumber rest →
    value? (fuel + 1) (text.toList ++ rest) = some (x, rest)
  means : ∀ depth, j.nesting ≤ depth → x.toJson? depth = some j

theorem spells_null : Spells "null" .null .null :=
  ⟨⟨_, _, rfl, rfl, by decide, by decide⟩, fun _ _ _ _ => rfl, fun _ _ => rfl⟩

theorem spells_bool (b : Bool) : Spells (if b then "true" else "false") (.bool b) (.bool b) := by
  cases b <;> exact ⟨⟨_, _, rfl, rfl, by decide, by decide⟩, fun _ _ _ _ => rfl, fun _ _ => rfl⟩

theorem toList_quote_append (s : String) (rest : List Char) :
    (quote s).toList ++ rest = '"' :: (s.toList.flatMap escapeChar ++ '"' :: rest) := by
  simp [quote]

theorem starts_quote (s : String) : Starts (quote s) :=
  starts_of_append (toList_quote_append s) (by decide)

theorem spells_string (s : String) : Spells (quote s) (.string (some s)) (.string s) := by
  refine ⟨starts_quote s, fun fuel rest _ _ => ?_, fun _ _ => rfl⟩
  rw [toList_quote_append, value?, skipSpace_cons rfl]
  simp only [string?_escaped]
  rfl

theorem ne_of_numeric {c d : Char} (hc : c.isDigit = true ∨ c = '-')
    (hd : ¬(d.isDigit = true ∨ d = '-')) : c ≠ d :=
  fun h => hd (h ▸ hc)

theorem isSpace_of_numeric {c : Char} (hc : c.isDigit = true ∨ c = '-') : isSpace c = false := by
  have hne (d : Char) (hd : ¬(d.isDigit = true ∨ d = '-')) := ne_of_numeric hc hd
  simp [isSpace, hne ' ' (by decide), hne '\t' (by decide), hne '\n' (by decide),
    hne '\r' (by decide)]

/-- What begins like a number begins like no other value. -/
theorem value?_of_numeric {c : Char} (hc : c.isDigit = true ∨ c = '-') (fuel : Nat)
    (cs : List Char) :
    value? (fuel + 1) (c :: cs) = (number? (c :: cs)).map fun r => (.number r.1, r.2) := by
  rw [value?, skipSpace_cons (isSpace_of_numeric hc)]
  split
  case h_7 => rfl
  all_goals
    rename_i h
    exact absurd (List.cons.inj h).1 (ne_of_numeric hc (by decide))

theorem spells_number (val : Int) (lower : -0x8000000000000000 ≤ val)
    (upper : val < 0x10000000000000000) :
    ∃ n, Spells (Decimal.ofInt val) (.number n) (.number (.integer val lower upper)) := by
  obtain ⟨n, hn, hread⟩ := number?_render val lower upper
  obtain ⟨c, cs, hcs, hc⟩ := head_ofInt val
  have hcloses : c ≠ ']' ∧ c ≠ '}' :=
    ⟨ne_of_numeric hc (by decide), ne_of_numeric hc (by decide)⟩
  refine ⟨n, ⟨c, cs, hcs, isSpace_of_numeric hc, hcloses⟩, fun fuel rest _ hrest => ?_,
    fun _ _ => ?_⟩
  · have hnumber := hread rest hrest
    rw [hcs, List.cons_append] at hnumber ⊢
    rw [value?_of_numeric hc, hnumber]
    rfl
  · rw [toJson?, hn]
    rfl

theorem Starts.length_pos {text : String} (h : Starts text) : 0 < text.length := by
  obtain ⟨c, cs, hs, -⟩ := h
  rw [← String.length_toList, hs]
  exact Nat.succ_pos _

theorem endsNumber_cons {c : Char} (hc : c = ',' ∨ c = ']' ∨ c = '}') (rest : List Char) :
    EndsNumber (c :: rest) := by
  intro d hd
  obtain rfl : c = d := Option.some.inj hd
  rcases hc with rfl | rfl | rfl <;> decide

/-- How one entry of a list is read: what follows it decides whether it is the last one. -/
structure SpellsEntry (read? : Nat → List Char → Option (List β × List Char)) (close : Char)
    (text : String) (x : β) : Prop where
  starts : Starts text
  last : ∀ fuel rest, 2 * text.length ≤ fuel + 1 →
    read? (fuel + 2) (text.toList ++ close :: rest) = some ([x], rest)
  more : ∀ fuel rest, 2 * text.length ≤ fuel + 1 →
    read? (fuel + 2) (text.toList ++ ',' :: rest) =
      (read? (fuel + 1) rest).map fun r => (x :: r.1, r.2)

/-- The entries of a list up to what closes it. -/
structure SpellsList (read? : Nat → List Char → Option (List β × List Char)) (close : Char)
    (texts : List String) (xs : List β) : Prop where
  empty : texts = [] → xs = []
  starts : texts ≠ [] → Starts (",".intercalate texts)
  reads : texts ≠ [] → ∀ fuel rest, 2 * (",".intercalate texts).length ≤ fuel →
    read? (fuel + 1) ((",".intercalate texts).toList ++ close :: rest) = some (xs, rest)

section Lists

variable {read? : Nat → List Char → Option (List β × List Char)} {close : Char}

theorem SpellsList.nil : SpellsList read? close [] [] :=
  ⟨fun _ => rfl, fun h => absurd rfl h, fun h => absurd rfl h⟩

theorem SpellsList.cons {text : String} {texts : List String} {x : β} {xs : List β}
    (hx : SpellsEntry read? close text x) (hs : SpellsList read? close texts xs) :
    SpellsList read? close (text :: texts) (x :: xs) := by
  have hone : ",".length = 1 := rfl
  have hpos := hx.starts.length_pos
  refine ⟨fun h => absurd h (List.cons_ne_nil _ _), fun _ => hx.starts.intercalate texts,
    fun _ fuel rest hf => ?_⟩
  cases texts with
  | nil =>
    rw [String.intercalate_singleton] at hf ⊢
    obtain ⟨k, rfl⟩ := Nat.exists_eq_succ_of_ne_zero (show fuel ≠ 0 by omega)
    rw [hx.last k rest (by omega), hs.empty rfl]
  | cons t ts =>
    have hsplit : (",".intercalate (text :: t :: ts)).toList ++ close :: rest =
        text.toList ++ ',' :: ((",".intercalate (t :: ts)).toList ++ close :: rest) := by
      simp [String.intercalate_cons_cons]
    rw [String.intercalate_cons_cons, String.length_append, String.length_append, hone] at hf
    obtain ⟨k, rfl⟩ := Nat.exists_eq_succ_of_ne_zero (show fuel ≠ 0 by omega)
    rw [hsplit, hx.more k _ (by omega), hs.reads (List.cons_ne_nil t ts) k rest (by omega)]
    rfl

/-- Behind what opens a list stands what closes it or an entry, which is neither blank nor closes
anything. -/
theorem SpellsList.enters {texts : List String} {xs : List β}
    (h : SpellsList read? close texts xs) (hclose : isSpace close = false) (fuel : Nat)
    (rest : List Char) (hf : 2 * (",".intercalate texts).length < fuel) :
    let body := (",".intercalate texts).toList ++ close :: rest
    skipSpace body = body ∧
      (body = close :: rest ∧ xs = [] ∨
        (∀ cs, body ≠ ']' :: cs ∧ body ≠ '}' :: cs) ∧ read? fuel body = some (xs, rest)) := by
  intro body
  cases texts with
  | nil => exact ⟨skipSpace_cons hclose rest, .inl ⟨rfl, h.empty rfl⟩⟩
  | cons t ts =>
    obtain ⟨c, cs, hcs, hc, hbracket, hbrace⟩ := h.starts (List.cons_ne_nil t ts)
    obtain ⟨k, rfl⟩ := Nat.exists_eq_succ_of_ne_zero (show fuel ≠ 0 by omega)
    have hbody : body = c :: (cs ++ close :: rest) := congrArg (· ++ close :: rest) hcs
    refine ⟨hbody ▸ skipSpace_cons hc _, .inr ⟨fun cs' => ⟨?_, ?_⟩, ?_⟩⟩
    · exact fun he => hbracket (List.cons.inj (hbody.symm.trans he)).1
    · exact fun he => hbrace (List.cons.inj (hbody.symm.trans he)).1
    · exact h.reads (List.cons_ne_nil t ts) k rest (by omega)

end Lists

theorem Spells.item {text : String} {x : Source} {j : Json} (h : Spells text x j) :
    SpellsEntry items? ']' text x := by
  refine ⟨h.starts, fun fuel rest hf => ?_, fun fuel rest hf => ?_⟩
  · rw [items?, h.reads fuel _ hf (endsNumber_cons (by simp) rest)]
    rfl
  · rw [items?, h.reads fuel _ hf (endsNumber_cons (by simp) rest)]
    rfl

theorem spells_array {texts : List String} {xs : List Source} {items : List Json}
    (h : SpellsList items? ']' texts xs)
    (hmeans : ∀ depth, itemNesting items ≤ depth → itemsToJson? xs depth = some items) :
    Spells (renderArray texts) (.array xs) (.array items) := by
  have htext (rest : List Char) : (renderArray texts).toList ++ rest =
      '[' :: ((",".intercalate texts).toList ++ ']' :: rest) := by
    simp [renderArray]
  have hlength : (renderArray texts).length = (",".intercalate texts).length + 2 := by
    have hbrackets : "[".length = 1 ∧ "]".length = 1 := ⟨rfl, rfl⟩
    rw [renderArray, String.length_append, String.length_append, hbrackets.1, hbrackets.2]
    omega
  refine ⟨starts_of_append htext (by decide), fun fuel rest hf _ => ?_, fun depth hd => ?_⟩
  · obtain ⟨hskip, henters⟩ := h.enters rfl fuel rest (by omega)
    rw [htext, value?, skipSpace_cons rfl]
    simp only [hskip]
    rcases henters with ⟨hclosed, rfl⟩ | ⟨hopen, hread⟩
    · rw [hclosed]
      rfl
    · split
      · rename_i he
        exact absurd he (hopen _).1
      · rw [hread]
        rfl
  · obtain ⟨k, rfl⟩ := Nat.exists_eq_succ_of_ne_zero (show depth ≠ 0 by rw [nesting] at hd; omega)
    rw [nesting] at hd
    rw [toJson?, hmeans k (by omega)]
    rfl

def memberText (m : String × String) : String :=
  quote m.1 ++ ":" ++ m.2

theorem Spells.member {text : String} {x : Source} {j : Json} (h : Spells text x j)
    (key : String) : SpellsEntry members? '}' (memberText (key, text)) (some key, x) := by
  have htext (rest : List Char) : (memberText (key, text)).toList ++ rest =
      '"' :: (key.toList.flatMap escapeChar ++ '"' :: ':' :: (text.toList ++ rest)) := by
    simp [memberText, quote]
  have hlength : text.length ≤ (memberText (key, text)).length := by
    change text.length ≤ (quote key ++ ":" ++ text).length
    rw [String.length_append]
    omega
  refine ⟨((starts_quote key).append ":").append text, fun fuel rest hf => ?_,
    fun fuel rest hf => ?_⟩
  · have hvalue := h.reads fuel ('}' :: rest) (by omega) (endsNumber_cons (by simp) rest)
    rw [htext, members?, skipSpace_cons rfl]
    simp only [string?_escaped, Option.bind_eq_bind, Option.bind_some,
      skipSpace_cons (c := ':') rfl, hvalue]
    rfl
  · have hvalue := h.reads fuel (',' :: rest) (by omega) (endsNumber_cons (by simp) rest)
    rw [htext, members?, skipSpace_cons rfl]
    simp only [string?_escaped, Option.bind_eq_bind, Option.bind_some,
      skipSpace_cons (c := ':') rfl, hvalue]
    rfl

theorem spells_object {texts : List (String × String)} {xs : List (Option String × Source)}
    {members : List (String × Json)} (h : SpellsList members? '}' (texts.map memberText) xs)
    (hmeans : ∀ depth, memberNesting members ≤ depth → membersToJson? xs depth = some members)
    (ho : (members.map Prod.fst).Pairwise (· < ·)) :
    Spells (renderObject texts) (.object xs) (.object members) := by
  have htext (rest : List Char) : (renderObject texts).toList ++ rest =
      '{' :: ((",".intercalate (texts.map memberText)).toList ++ '}' :: rest) := by
    simp [renderObject]
    rfl
  have hlength : (renderObject texts).length =
      (",".intercalate (texts.map memberText)).length + 2 := by
    have hbraces : "\x7b".length = 1 ∧ "\x7d".length = 1 := ⟨rfl, rfl⟩
    change ("\x7b" ++ ",".intercalate (texts.map memberText) ++ "\x7d").length = _
    rw [String.length_append, String.length_append, hbraces.1, hbraces.2]
    omega
  refine ⟨starts_of_append htext (by decide), fun fuel rest hf _ => ?_, fun depth hd => ?_⟩
  · obtain ⟨hskip, henters⟩ := h.enters rfl fuel rest (by omega)
    rw [htext, value?, skipSpace_cons rfl]
    simp only [hskip]
    rcases henters with ⟨hclosed, rfl⟩ | ⟨hopen, hread⟩
    · rw [hclosed]
      rfl
    · split
      · rename_i he
        exact absurd he (hopen _).2
      · rw [hread]
        rfl
  · obtain ⟨k, rfl⟩ := Nat.exists_eq_succ_of_ne_zero (show depth ≠ 0 by rw [nesting] at hd; omega)
    rw [nesting] at hd
    rw [toJson?, hmeans k (by omega), Option.map_some, ofMembers_of_ordered ho]

mutual

theorem exists_spells : (j : Json) → j.isWhole = true → j.isOrdered = true →
    ∃ x, Spells j.render x j
  | .null, _, _ => ⟨_, spells_null⟩
  | .bool b, _, _ => ⟨_, spells_bool b⟩
  | .number (.integer val lower upper), _, _ =>
    have ⟨n, hn⟩ := spells_number val lower upper
    ⟨.number n, hn⟩
  | .number (.double x finite), hw, _ => absurd hw (by simp [isWhole, every])
  | .string s, _, _ => ⟨_, spells_string s⟩
  | .array items, hw, ho =>
    have ⟨xs, hs, hmeans⟩ := exists_spellsItems items (isWhole_array.mp hw) (isOrdered_array.mp ho)
    ⟨.array xs, spells_array hs hmeans⟩
  | .object members, hw, ho =>
    have ⟨hkeys, hvalues⟩ := isOrdered_object.mp ho
    have ⟨xs, hs, hmeans⟩ := exists_spellsMembers members (isWhole_object.mp hw) hvalues
    ⟨.object xs, spells_object hs hmeans hkeys⟩

theorem exists_spellsItems : (items : List Json) → (∀ j ∈ items, j.isWhole = true) →
    (∀ j ∈ items, j.isOrdered = true) → ∃ xs, SpellsList items? ']' (renderItems items) xs ∧
      ∀ depth, itemNesting items ≤ depth → itemsToJson? xs depth = some items
  | [], _, _ => ⟨[], .nil, fun _ _ => rfl⟩
  | j :: items, hw, ho => by
    obtain ⟨x, hx⟩ := exists_spells j (hw j List.mem_cons_self) (ho j List.mem_cons_self)
    obtain ⟨xs, hs, hmeans⟩ := exists_spellsItems items (List.forall_mem_cons.mp hw).2
      (List.forall_mem_cons.mp ho).2
    refine ⟨x :: xs, hs.cons hx.item, fun depth hd => ?_⟩
    obtain ⟨hj, hitems⟩ := Nat.max_le.mp hd
    simp [itemsToJson?, hx.means depth hj, hmeans depth hitems]

theorem exists_spellsMembers : (members : List (String × Json)) →
    (∀ m ∈ members, m.2.isWhole = true) → (∀ m ∈ members, m.2.isOrdered = true) →
    ∃ xs, SpellsList members? '}' ((renderMembers members).map memberText) xs ∧
      ∀ depth, memberNesting members ≤ depth → membersToJson? xs depth = some members
  | [], _, _ => ⟨[], .nil, fun _ _ => rfl⟩
  | (key, j) :: members, hw, ho => by
    obtain ⟨x, hx⟩ := exists_spells j (hw _ List.mem_cons_self) (ho _ List.mem_cons_self)
    obtain ⟨xs, hs, hmeans⟩ := exists_spellsMembers members (List.forall_mem_cons.mp hw).2
      (List.forall_mem_cons.mp ho).2
    refine ⟨(some key, x) :: xs, hs.cons (hx.member key), fun depth hd => ?_⟩
    obtain ⟨hj, hmembers⟩ := Nat.max_le.mp hd
    simp [membersToJson?, hx.means depth hj, hmeans depth hmembers]

end

end Source

/-- A value that is no deeper than what is read comes back from its text. -/
theorem read_render {j : Json} (hw : j.isWhole = true) (ho : j.isOrdered = true)
    (hd : j.nesting ≤ nestingLimit) : read j.render = .ok j := by
  obtain ⟨x, hx⟩ := Source.exists_spells j hw ho
  have hnothing : Source.EndsNumber [] := by
    intro c hc
    simp at hc
  have hread := hx.reads (2 * j.render.length + 1) [] (by omega) hnothing
  rw [List.append_nil, ← String.length_toList] at hread
  have htext : ofText? j.render = some j := by
    simp only [ofText?, Source.ofText?, hread]
    simp [Source.skipSpace, hx.means nestingLimit hd]
  rw [read, htext]

end SqlMapper.Json
