import SqlMapper.Proofs.Select.Run
import SqlMapper.Proofs.Text.Quote

/-! Placeholders and values stay in step. Every piece of a statement has as many placeholders
as values, so in the whole statement the placeholders of a piece stand for its own values. -/

namespace SqlMapper

open Text (HasPlaceholders withValues)

theorem hasPlaceholders_placeholders {separator : String} (h : HasPlaceholders separator 0)
    (n : Nat) : HasPlaceholders (placeholders separator n) n := by
  have hone : HasPlaceholders "?" 1 := by decide
  have hmark : ∀ u ∈ List.replicate n (), HasPlaceholders "?" [u].length := fun _ _ => hone
  simpa [placeholders] using HasPlaceholders.intercalate h hmark

theorem Keyword.hasPlaceholders_operator {k : Keyword} {n : Nat} (h : k.Takes n) :
    HasPlaceholders (k.operator n) n := by
  by_cases hl : k.isList = true
  · have hword : HasPlaceholders (if k = .notIn then " not in (" else " in (") 0 := by
      split <;> decide
    have hcomma : HasPlaceholders "," 0 := by decide
    have hmarks := hasPlaceholders_placeholders hcomma n
    have hh := (hword.append hmarks).append (show HasPlaceholders ")" 0 by decide)
    simpa only [operator, hl, if_true, Nat.zero_add, Nat.add_zero] using hh
  · by_cases hr : k.isRange = true
    · obtain rfl : n = 2 := by simpa [Takes, hl, hr] using h
      revert hl hr
      cases k <;> decide
    · obtain rfl : n = 1 := by simpa [Takes, hl, hr] using h
      revert hl hr
      cases k <;> decide

theorem Link.hasPlaceholders_word (link : Link) : HasPlaceholders link.word 0 := by
  cases link <;> decide

namespace Fragment

/-- The condition closes its quotes and has as many placeholders as values. -/
def Aligned (f : Fragment) : Prop :=
  HasPlaceholders f.body f.values.length

theorem Renders.aligned {f : Fragment} {column : String} {keyword : Keyword} {link : Link}
    (h : f.Renders column keyword link) (hc : HasPlaceholders column 0) : f.Aligned := by
  have hh := hc.append (Keyword.hasPlaceholders_operator h.takes)
  rw [← h.body_eq, Nat.zero_add] at hh
  exact hh

theorem aligned_of_rendered? {column : String} {keyword : Keyword} {value : SqlValue} {link : Link}
    {f : Fragment} (hc : HasPlaceholders column 0)
    (h : rendered? column keyword value link = some f) : f.Aligned :=
  (renders_of_render (render_eq_ok_of_rendered? h)).aligned hc

def bound (f : Fragment) : List (Char ⊕ SqlValue) :=
  withValues f.body f.values

end Fragment

def plain (text : String) : List (Char ⊕ SqlValue) :=
  text.toList.map .inl

theorem withValues_plain_append {glue : String} (h : HasPlaceholders glue 0) (text : String)
    (values : List SqlValue) :
    withValues (glue ++ text) values = plain glue ++ withValues text values := by
  have hh : withValues (glue ++ text) ([] ++ values) =
      withValues glue [] ++ withValues text values := Text.withValues_append h
  rwa [List.nil_append, Text.withValues_nil] at hh

def boundRest (rest : List Fragment) : List (Char ⊕ SqlValue) :=
  rest.flatMap fun f => plain (" " ++ f.link.word ++ " ") ++ f.bound

theorem group_body_aligned {first : Fragment} {rest : List Fragment} (hf : first.Aligned)
    (hrest : ∀ f ∈ rest, f.Aligned) :
    HasPlaceholders (" ".intercalate (first.body :: rest.flatMap fun f => [f.link.word, f.body]))
      (first.values ++ rest.flatMap fun f => f.values).length ∧
    withValues (" ".intercalate (first.body :: rest.flatMap fun f => [f.link.word, f.body]))
      (first.values ++ rest.flatMap fun f => f.values) = first.bound ++ boundRest rest := by
  induction rest generalizing first with
  | nil => simpa [boundRest, Fragment.bound, Fragment.Aligned] using hf
  | cons f fs ih =>
    obtain ⟨hplace, hbind⟩ := ih (hrest f (by simp)) fun g hg => hrest g (by simp [hg])
    have hglue : HasPlaceholders (" " ++ f.link.word ++ " ") 0 :=
      ((show HasPlaceholders " " 0 by decide).append f.link.hasPlaceholders_word).append
        (show HasPlaceholders " " 0 by decide)
    have htext : " ".intercalate
        (first.body :: (f :: fs).flatMap fun f => [f.link.word, f.body]) =
        first.body ++ ((" " ++ f.link.word ++ " ") ++
          " ".intercalate (f.body :: fs.flatMap fun f => [f.link.word, f.body])) := by
      simp [String.append_assoc]
    rw [htext, List.flatMap_cons]
    constructor
    · have hh := hf.append (hglue.append hplace)
      rwa [Nat.zero_add, ← List.length_append] at hh
    · rw [Text.withValues_append hf, withValues_plain_append hglue, hbind]
      simp [boundRest, Fragment.bound]

namespace Select

namespace Piece

def Aligned : Piece → Prop
  | .raw text values => HasPlaceholders text values.length
  | .condition f => f.Aligned
  | .group _ first rest => first.Aligned ∧ ∀ f ∈ rest, f.Aligned

def bound : Piece → List (Char ⊕ SqlValue)
  | .raw text values => withValues (Text.trim text) values
  | .condition f => plain (f.link.word ++ " ") ++ f.bound
  | .group link first rest =>
    plain (link.word ++ " (") ++ first.bound ++ boundRest rest ++ plain ")"

theorem Aligned.hasPlaceholders {p : Piece} (h : p.Aligned) :
    HasPlaceholders p.text p.values.length := by
  cases p with
  | raw text values => exact HasPlaceholders.trim h
  | condition f =>
    have hh := (f.link.hasPlaceholders_word.append (show HasPlaceholders " " 0 by decide)).append h
    rwa [Nat.zero_add] at hh
  | group link first rest =>
    have hopen := link.hasPlaceholders_word.append (show HasPlaceholders " (" 0 by decide)
    have hh := (hopen.append (group_body_aligned h.1 h.2).1).append
      (show HasPlaceholders ")" 0 by decide)
    rwa [Nat.zero_add, Nat.add_zero] at hh

theorem Aligned.withValues_text {p : Piece} (h : p.Aligned) :
    withValues p.text p.values = p.bound := by
  cases p with
  | raw text values => rfl
  | condition f =>
    exact withValues_plain_append
      (f.link.hasPlaceholders_word.append (show HasPlaceholders " " 0 by decide)) f.body f.values
  | group link first rest =>
    have hopen := link.hasPlaceholders_word.append (show HasPlaceholders " (" 0 by decide)
    obtain ⟨hplace, hbind⟩ := group_body_aligned h.1 h.2
    have hclose : withValues ")" ([] : List SqlValue) = plain ")" := Text.withValues_nil ")"
    have hbody : withValues (_ ++ ")") (_ ++ []) = _ ++ withValues ")" [] :=
      Text.withValues_append hplace
    rw [List.append_nil] at hbody
    rw [text, values, String.append_assoc, withValues_plain_append hopen, hbody, hbind, hclose,
      bound]
    simp only [List.append_assoc]

/-- A blank text has no placeholders, so there are no values for it. -/
theorem Aligned.values_eq_nil {p : Piece} (h : p.Aligned) (he : p.text.isEmpty = true) :
    p.values = [] := by
  have hc := h.hasPlaceholders.count
  rw [String.isEmpty_iff.mp he] at hc
  exact List.length_eq_zero_iff.mp hc.symm

end Piece

def visible (ps : List Piece) : List Piece :=
  ps.filter fun p => !p.text.isEmpty

theorem written_eq (ps : List Piece) :
    written ps = " ".intercalate ((visible ps).map Piece.text) := by
  rw [written, List.filter_map]
  rfl

theorem flatMap_values_visible {ps : List Piece} (h : ∀ p ∈ ps, p.Aligned) :
    (visible ps).flatMap Piece.values = ps.flatMap Piece.values := by
  induction ps with
  | nil => rfl
  | cons p ps ih =>
    have hh := ih fun q hq => h q (List.mem_cons_of_mem p hq)
    by_cases he : p.text.isEmpty = true
    · have hv := (h p List.mem_cons_self).values_eq_nil he
      simpa [visible, he, hv] using hh
    · simpa [visible, he] using hh

theorem withValues_intercalate {ps : List Piece} (h : ∀ p ∈ ps, p.Aligned) :
    withValues (" ".intercalate (ps.map Piece.text)) (ps.flatMap Piece.values) =
      [.inl ' '].intercalate (ps.map Piece.bound) := by
  induction ps with
  | nil => rfl
  | cons p ps ih =>
    have hp := h p List.mem_cons_self
    have hh := ih fun q hq => h q (List.mem_cons_of_mem p hq)
    cases ps with
    | nil => simpa using hp.withValues_text
    | cons q qs =>
      simp only [List.map_cons, List.flatMap_cons, String.intercalate_cons_cons,
        List.intercalate_cons_cons, String.append_assoc] at hh ⊢
      rw [Text.withValues_append hp.hasPlaceholders, hp.withValues_text,
        withValues_plain_append (by decide), hh, List.append_assoc]
      rfl

theorem written_aligned {ps : List Piece} (h : ∀ p ∈ ps, p.Aligned) :
    HasPlaceholders (written ps) (ps.flatMap Piece.values).length ∧
      withValues (written ps) (ps.flatMap Piece.values) =
        [.inl ' '].intercalate ((visible ps).map Piece.bound) := by
  have hv : ∀ p ∈ visible ps, p.Aligned := fun p hp => h p (List.mem_filter.mp hp).1
  rw [written_eq, ← flatMap_values_visible h]
  constructor
  · exact HasPlaceholders.intercalate (show HasPlaceholders " " 0 by decide)
      fun p hp => (hv p hp).hasPlaceholders
  · exact withValues_intercalate hv

theorem written_prefix (ps qs : List Piece) :
    (written ps).toList <+: (written (ps ++ qs)).toList := by
  have hv : visible (ps ++ qs) = visible ps ++ visible qs := List.filter_append ..
  rw [written_eq, written_eq, hv, List.map_append]
  by_cases hp : (visible ps).map Piece.text = []
  · simp [hp]
  · by_cases hq : (visible qs).map Piece.text = []
    · simp [hq]
    · rw [String.intercalate_append_of_ne_nil hp hq, String.append_assoc, String.toList_append]
      exact List.prefix_append _ _

end Select

/-- Columns have no placeholders, and a fragment put in as it is has one for each value. -/
def Group.Step.Aligned : Group.Step → Prop
  | .condition column _ _ => HasPlaceholders column 0
  | .nextLink _ => True
  | .push f => f.Aligned

instance (s : Group.Step) : Decidable s.Aligned :=
  match s with
  | .condition column _ _ => inferInstanceAs (Decidable (HasPlaceholders column 0))
  | .nextLink _ => instDecidableTrue
  | .push f => inferInstanceAs (Decidable (HasPlaceholders f.body f.values.length))

theorem Group.aligned_of_mem_collected {steps : List Step} (h : ∀ s ∈ steps, s.Aligned)
    {f : Fragment} (hf : f ∈ collected steps) : f.Aligned := by
  obtain ⟨earlier, s, hs, hm⟩ := exists_of_mem_addedFrom hf
  have hs' := h s hs
  cases s with
  | condition column keyword value =>
    exact Fragment.aligned_of_rendered? hs' (Option.mem_toList.mp hm)
  | nextLink link => simp [Step.fragment?] at hm
  | push g =>
    obtain rfl : f = g := by simpa [Step.fragment?] using hm
    exact hs'

namespace Select

def Call.Aligned : Call → Prop
  | .condition column _ _ => HasPlaceholders column 0
  | .nextLink _ => True
  | .append text values => HasPlaceholders text values.length
  | .group _ steps => ∀ s ∈ steps, s.Aligned

/-- Columns have no placeholders, raw text has one for each value that comes with it, and both
close their quotes. -/
def Step.Aligned : Step → Prop
  | .condition column _ _ => HasPlaceholders column 0
  | .nextLink _ => True
  | .append text => HasPlaceholders text 0
  | .appendWith text values => HasPlaceholders text values.length
  | .apply d => ∀ f ∈ d.fields, HasPlaceholders f.compareColumn 0
  | .group _ steps => ∀ s ∈ steps, s.Aligned

instance (s : Step) : Decidable s.Aligned :=
  match s with
  | .condition column _ _ => inferInstanceAs (Decidable (HasPlaceholders column 0))
  | .nextLink _ => instDecidableTrue
  | .append text => inferInstanceAs (Decidable (HasPlaceholders text 0))
  | .appendWith text values => inferInstanceAs (Decidable (HasPlaceholders text values.length))
  | .apply d =>
    inferInstanceAs (Decidable (∀ f ∈ d.fields, HasPlaceholders f.compareColumn 0))
  | .group _ steps => inferInstanceAs (Decidable (∀ s ∈ steps, s.Aligned))

theorem Step.Aligned.calls {step : Step} (h : step.Aligned) : ∀ c ∈ step.calls, c.Aligned := by
  cases step with
  | apply d =>
    intro c hc
    obtain ⟨f, hf, rfl⟩ := List.mem_map.mp hc
    exact h f hf
  | _ =>
    intro c hc
    obtain rfl := List.mem_singleton.mp hc
    exact h

theorem Call.Aligned.piece {call : Call} (h : call.Aligned) {link : Link} {p : Piece}
    (hp : call.piece? link = some p) : p.Aligned := by
  cases call with
  | condition column keyword value =>
    obtain ⟨f, hf, rfl⟩ := Option.map_eq_some_iff.mp hp
    exact Fragment.aligned_of_rendered? h hf
  | nextLink link => simp [piece?] at hp
  | append text values =>
    obtain rfl := Option.some.inj hp
    exact h
  | group word steps =>
    cases hc : Group.collected steps with
    | nil => simp [piece?, hc] at hp
    | cons first rest =>
      obtain rfl : Piece.group word first rest = p := by simpa [piece?, hc] using hp
      have hall : ∀ f ∈ first :: rest, f.Aligned := fun f hf =>
        Group.aligned_of_mem_collected h (hc ▸ hf)
      exact ⟨hall first List.mem_cons_self, fun f hf => hall f (List.mem_cons_of_mem first hf)⟩

theorem aligned_of_mem_pieces {calls : List Call} (h : ∀ c ∈ calls, c.Aligned) {p : Piece}
    (hp : p ∈ pieces calls) : p.Aligned := by
  obtain ⟨earlier, c, hc, hm⟩ := exists_of_mem_addedFrom hp
  exact (h c hc).piece (Option.mem_toList.mp hm)

theorem aligned_of_mem_opening {base : Option String} (h : ∀ b ∈ base, HasPlaceholders b 0)
    {p : Piece} (hp : p ∈ opening base) : p.Aligned := by
  cases base with
  | none => simp [opening] at hp
  | some base =>
    rcases List.mem_cons.mp hp with rfl | hp
    · exact h base rfl
    · split at hp
      · simp at hp
      · obtain rfl := List.mem_singleton.mp hp
        exact show HasPlaceholders "WHERE 1=1" 0 by decide

theorem opening_values (base : Option String) : (opening base).flatMap Piece.values = [] := by
  cases base with
  | none => rfl
  | some base =>
    rw [opening]
    split <;> rfl

/-- After every step the statement has a placeholder for each of its values, a step only extends
both, and every value stands in the place of a placeholder of its own condition. -/
theorem run_placeholders_eq_values (base : Option String) (steps : List Step)
    (hbase : ∀ b ∈ base, HasPlaceholders b 0) (hsteps : ∀ step ∈ steps, step.Aligned) (n : Nat) :
    let s := (start base).run (steps.take n)
    let t := (start base).run (steps.take (n + 1))
    Text.openQuote none s.sql.toList = none ∧
      Text.placeholderCount none s.sql.toList = s.values.length ∧
      s.sql.toList <+: t.sql.toList ∧ s.values <+: t.values ∧
      withValues s.sql s.values = [.inl ' '].intercalate
        ((visible (opening base ++ pieces ((steps.take n).flatMap Step.calls))).map
          Piece.bound) := by
  intro s t
  have hrun : ∀ k, (start base).run (steps.take k) =
      ⟨written (opening base ++ pieces ((steps.take k).flatMap Step.calls)),
        (pieces ((steps.take k).flatMap Step.calls)).flatMap Piece.values,
        pending ((steps.take k).flatMap Step.calls),
        refused ((steps.take k).flatMap Step.calls)⟩ := fun k => by
    rw [run_eq_foldl, foldl_perform_eq]
  have hs := hrun n
  have ht := hrun (n + 1)
  obtain ⟨more, hmore⟩ : ∃ more, pieces ((steps.take (n + 1)).flatMap Step.calls) =
      pieces ((steps.take n).flatMap Step.calls) ++ more := by
    rw [List.take_add_one, List.flatMap_append, pieces, addedFrom_append]
    exact ⟨_, rfl⟩
  have hcalls : ∀ c ∈ (steps.take n).flatMap Step.calls, c.Aligned := by
    intro c hc
    obtain ⟨step, hstep, hm⟩ := List.mem_flatMap.mp hc
    exact (hsteps step (List.mem_of_mem_take hstep)).calls c hm
  have hpieces : ∀ p ∈ opening base ++ pieces ((steps.take n).flatMap Step.calls), p.Aligned := by
    intro p hp
    rcases List.mem_append.mp hp with hp | hp
    · exact aligned_of_mem_opening hbase hp
    · exact aligned_of_mem_pieces hcalls hp
  obtain ⟨hplace, hvalues⟩ := written_aligned hpieces
  rw [List.flatMap_append, opening_values, List.nil_append] at hplace hvalues
  simp only [s, t, hs, ht, hmore]
  refine ⟨hplace.closed, hplace.count, ?_, ?_, hvalues⟩
  · rw [← List.append_assoc]
    exact written_prefix _ more
  · rw [List.flatMap_append]
    exact List.prefix_append _ _

def mixedSteps : List Step :=
  [.condition "a" .like (.text "x"), .nextLink .or, .condition "b" .eq (.list [.int 1]),
    .apply ⟨"t", none, [⟨"id", "id", .between, "t.id", .between (.int 1) (.int 9)⟩]⟩,
    .group .or [.condition "c" .isIn (.list [.int 1, .int 2]), .condition "d" .ne .null,
      .push ⟨.or, "note = '?' or note = ?", [.text "?"]⟩],
    .appendWith " and e > ? " [.int 4], .append " order by `?` "]

theorem run_mixedSteps_placeholders :
    (∀ b ∈ some "select '?' from t", HasPlaceholders b 0) ∧ (∀ step ∈ mixedSteps, step.Aligned) ∧
      Text.placeholderCount none
        ((start (some "select '?' from t")).run (mixedSteps.take 6)).sql.toList = 7 := by
  have hbase : ∀ b ∈ some "select '?' from t", HasPlaceholders b 0 := by decide
  have hsteps : ∀ step ∈ mixedSteps, step.Aligned := by decide
  have hh := run_placeholders_eq_values (some "select '?' from t") mixedSteps hbase hsteps 6
  exact ⟨hbase, hsteps, hh.2.1.trans (by decide)⟩

end Select

end SqlMapper
