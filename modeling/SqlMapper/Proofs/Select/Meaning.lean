import Mathlib.Data.List.Induction
import SqlMapper.Proofs.Condition.Render
import SqlMapper.Proofs.Select.Where
import SqlMapper.Proofs.Text.Trim
import SqlMapper.Select.Basic

/-! What a sequence of calls means. Every call adds at most one piece to the statement, which
depends on the calls before it only through the link that they leave for the next condition.
The statement is the pieces with single spaces between them, and its values and errors come in
the order of the calls. -/

namespace SqlMapper

/-- What the calls of a sequence add one after another, each seen with the calls before it. -/
def addedFrom (add : List α → α → List β) (earlier : List α) : List α → List β
  | [] => []
  | c :: cs => add earlier c ++ addedFrom add (earlier ++ [c]) cs

theorem addedFrom_append (add : List α → α → List β) (earlier calls more : List α) :
    addedFrom add earlier (calls ++ more) =
      addedFrom add earlier calls ++ addedFrom add (earlier ++ calls) more := by
  induction calls generalizing earlier with
  | nil => simp [addedFrom]
  | cons c cs ih => simp [addedFrom, ih, List.append_assoc]

theorem addedFrom_concat (add : List α → α → List β) (earlier calls : List α) (c : α) :
    addedFrom add earlier (calls ++ [c]) =
      addedFrom add earlier calls ++ add (earlier ++ calls) c := by
  simp [addedFrom_append, addedFrom]

theorem exists_of_mem_addedFrom {add : List α → α → List β} {earlier calls : List α} {b : β}
    (h : b ∈ addedFrom add earlier calls) : ∃ before, ∃ c ∈ calls, b ∈ add before c := by
  induction calls generalizing earlier with
  | nil => simp [addedFrom] at h
  | cons c cs ih =>
    rcases List.mem_append.mp h with h | h
    · exact ⟨earlier, c, by simp, h⟩
    · obtain ⟨before, d, hd, hb⟩ := ih h
      exact ⟨before, d, List.mem_cons_of_mem c hd, hb⟩

/-- The link that waits for the next condition: the last one that was set since a call spent the
link, and `and` if none was. -/
def pendingLink (spends : α → Bool) (sets : α → Option Link) (calls : List α) : Link :=
  ((calls.reverse.takeWhile fun c => !spends c).findSome? sets).getD .and

theorem pendingLink_concat (spends : α → Bool) (sets : α → Option Link) (calls : List α) (c : α) :
    pendingLink spends sets (calls ++ [c]) =
      if spends c then .and else (sets c).getD (pendingLink spends sets calls) := by
  cases hc : spends c with
  | true => simp [pendingLink, hc]
  | false => cases hs : sets c <;> simp [pendingLink, hc, hs]

namespace Group

namespace Step

/-- Conditions spend the link, left out or not; a fragment that is put in as it is does not. -/
def spendsLink : Step → Bool
  | .condition .. => true
  | _ => false

def link? : Step → Option Link
  | .nextLink link => some link
  | _ => none

def fragment? (link : Link) : Step → Option Fragment
  | .condition column keyword value => Fragment.rendered? column keyword value link
  | .nextLink _ => none
  | .push f => some f

def error? : Step → Option DataError
  | .condition column keyword value => Fragment.malformation? column keyword value
  | _ => none

end Step

def pending (steps : List Step) : Link :=
  pendingLink Step.spendsLink Step.link? steps

def collected (steps : List Step) : List Fragment :=
  addedFrom (fun earlier s => (s.fragment? (pending earlier)).toList) [] steps

def refused (steps : List Step) : List DataError :=
  steps.flatMap fun s => s.error?.toList

theorem step_eq (g : Group) (s : Step) :
    g.step s =
      ⟨g.fragments ++ (s.fragment? g.link).toList,
        if s.spendsLink then .and else s.link?.getD g.link, g.errors ++ s.error?.toList⟩ := by
  cases s with
  | condition column keyword value =>
    cases hr : Fragment.render column keyword value g.link with
    | ok f =>
      have hm := Fragment.malformation?_eq_none_of_ok hr
      cases f <;>
        simp [step, condition, Step.fragment?, Step.error?, Step.spendsLink, Fragment.rendered?,
          hr, hm]
    | error e =>
      have hm := (Fragment.render_eq_error_iff column keyword value g.link e).mp hr
      simp [step, condition, Step.fragment?, Step.error?, Step.spendsLink, Fragment.rendered?,
        hr, hm]
  | nextLink link => simp [step, nextLink, Step.fragment?, Step.error?, Step.spendsLink, Step.link?]
  | push f => simp [step, push, Step.fragment?, Step.error?, Step.spendsLink, Step.link?]

theorem collect_eq (steps : List Step) :
    collect steps = ⟨collected steps, pending steps, refused steps⟩ := by
  induction steps using List.reverseRecOn with
  | nil => rfl
  | append_singleton steps s ih =>
    have hc : collect (steps ++ [s]) = (collect steps).step s := by simp [collect]
    rw [hc, ih, step_eq]
    simp [collected, refused, pending, addedFrom_concat, pendingLink_concat]

end Group

namespace Select

/-- What a call adds to the text of a statement, with its values. -/
inductive Piece where
  | raw (text : String) (values : List SqlValue)
  | condition (f : Fragment)
  | group (link : Link) (first : Fragment) (rest : List Fragment)

namespace Piece

/-- Raw text is trimmed; in a group the first condition has no link. -/
def text : Piece → String
  | .raw text _ => Text.trim text
  | .condition f => f.link.word ++ " " ++ f.body
  | .group link first rest =>
    link.word ++ " (" ++
      " ".intercalate (first.body :: rest.flatMap fun f => [f.link.word, f.body]) ++ ")"

def values : Piece → List SqlValue
  | .raw _ values => values
  | .condition f => f.values
  | .group _ first rest => first.values ++ rest.flatMap fun f => f.values

end Piece

/-- The texts that are not blank, with one space between them. -/
def written (pieces : List Piece) : String :=
  " ".intercalate ((pieces.map Piece.text).filter fun t => !t.isEmpty)

/-- The calls that a sequence of steps comes to: a descriptor is applied by one condition for each
of its fields. -/
inductive Call where
  | condition (column : String) (keyword : Keyword) (value : SqlValue)
  | nextLink (link : Link)
  | append (text : String) (values : List SqlValue)
  | group (link : Link) (steps : List Group.Step)

def Step.calls : Step → List Call
  | .condition column keyword value => [.condition column keyword value]
  | .nextLink link => [.nextLink link]
  | .append text => [.append text []]
  | .appendWith text values => [.append text values]
  | .apply d => d.fields.map fun f => .condition f.compareColumn f.keyword f.value
  | .group link steps => [.group link steps]

namespace Call

/-- Conditions and groups spend the link even if they add nothing; raw text leaves it. -/
def spendsLink : Call → Bool
  | .condition .. => true
  | .group .. => true
  | _ => false

def link? : Call → Option Link
  | .nextLink link => some link
  | _ => none

def piece? (link : Link) : Call → Option Piece
  | .condition column keyword value =>
    (Fragment.rendered? column keyword value link).map .condition
  | .nextLink _ => none
  | .append text values => some (.raw text values)
  | .group link steps =>
    match Group.collected steps with
    | [] => none
    | first :: rest => some (.group link first rest)

def errors : Call → List DataError
  | .condition column keyword value => (Fragment.malformation? column keyword value).toList
  | .group _ steps => Group.refused steps
  | _ => []

end Call

def pending (calls : List Call) : Link :=
  pendingLink Call.spendsLink Call.link? calls

def pieces (calls : List Call) : List Piece :=
  addedFrom (fun earlier c => (c.piece? (pending earlier)).toList) [] calls

def refused (calls : List Call) : List DataError :=
  calls.flatMap Call.errors

/-- What a statement begins with: nothing, or its base with a `where` if it has none of its own. -/
def opening : Option String → List Piece
  | none => []
  | some base => .raw base [] :: if OuterWhere base then [] else [.raw "WHERE 1=1" []]

def start : Option String → Select
  | none => empty
  | some base => ofBase base

theorem Link.exists_toList_word (link : Link) :
    ∃ c cs, link.word.toList = c :: cs ∧ Text.isBlank c = false := by
  cases link
  · exact ⟨'a', ['n', 'd'], by decide, by decide⟩
  · exact ⟨'o', ['r'], by decide, by decide⟩

theorem trim_link_append (link : Link) {rest : String} {c : Char}
    (hc : rest.toList.getLast? = some c) (hb : Text.isBlank c = false) :
    Text.trim (link.word ++ rest) = link.word ++ rest := by
  apply Text.trim_eq_self
  · obtain ⟨d, ds, hw, hd⟩ := Link.exists_toList_word link
    simp [hw, hd]
  · rw [Text.getLast?_append_of_some link.word hc]
    simpa using hb

theorem trim_text_of_piece? {call : Call} {link : Link} {p : Piece}
    (h : call.piece? link = some p) : Text.trim p.text = p.text := by
  cases call with
  | condition column keyword value =>
    obtain ⟨f, hf, rfl⟩ := Option.map_eq_some_iff.mp h
    have hr := Fragment.renders_of_render (Fragment.render_eq_ok_of_rendered? hf)
    obtain ⟨c, hc, hb⟩ := (Option.any_eq_true _ _).mp (keyword.getLast_operator f.values.length)
    have hbody : f.body.toList.getLast? = some c := by
      rw [hr.body_eq]
      exact Text.getLast?_append_of_some column hc
    rw [Piece.text, String.append_assoc]
    exact trim_link_append f.link (Text.getLast?_append_of_some " " hbody) (by simpa using hb)
  | nextLink link => simp [Call.piece?] at h
  | append text values =>
    obtain rfl := Option.some.inj h
    exact Text.trim_trim text
  | group word steps =>
    simp only [Call.piece?] at h
    cases hc : Group.collected steps with
    | nil => simp [hc] at h
    | cons first rest =>
      obtain rfl : Piece.group word first rest = p := by simpa [hc] using h
      have hp : ")".toList.getLast? = some ')' := by decide
      rw [Piece.text, String.append_assoc, String.append_assoc]
      exact trim_link_append word
        (Text.getLast?_append_of_some _ (Text.getLast?_append_of_some _ hp)) (by decide)

/-- The statement so far ends in no space, so one space stands before each later text. -/
theorem joinSql_intercalate {texts : List String}
    (h : ∀ t ∈ texts, t ≠ "" ∧ Text.trim t = t) {text : String} (ht : Text.trim text = text) :
    joinSql (" ".intercalate texts) text =
      " ".intercalate (texts ++ if text.isEmpty then [] else [text]) := by
  by_cases he : text.isEmpty = true
  · simp [joinSql, ht, he]
  · rcases List.eq_nil_or_concat texts with rfl | ⟨front, last, rfl⟩
    · simp [joinSql, ht, he]
    · obtain ⟨hne, htrim⟩ := h last (by simp)
      have hl : last.toList ≠ [] := by simpa using hne
      obtain ⟨c, hc⟩ : ∃ c, last.toList.getLast? = some c := ⟨_, List.getLast?_eq_some_getLast hl⟩
      have hlast : (" ".intercalate (front ++ [last])).toList.getLast? = some c := by
        by_cases hf : front = []
        · simpa [hf] using hc
        · rw [String.intercalate_append_of_ne_nil hf (by simp)]
          simpa only [String.intercalate_singleton] using Text.getLast?_append_of_some _ hc
      have hspace : c ≠ ' ' := by
        rintro rfl
        exact absurd (Text.isBlank_getLast_of_trim_eq htrim hc) (by decide)
      have hj : " ".intercalate (front ++ [last] ++ [text]) =
          " ".intercalate (front ++ [last]) ++ " " ++ text := by
        rw [String.intercalate_append_of_ne_nil (by simp) (by simp), String.intercalate_singleton]
      rw [List.concat_eq_append, if_neg he, hj]
      generalize " ".intercalate (front ++ [last]) = sql at hlast
      have hsql : sql ≠ "" := by
        rintro rfl
        simp at hlast
      simp [joinSql, ht, he, hlast, hspace, hsql]

theorem joinSql_written {ps : List Piece} (h : ∀ p ∈ ps, Text.trim p.text = p.text) {p : Piece}
    (hp : Text.trim p.text = p.text) : joinSql (written ps) p.text = written (ps ++ [p]) := by
  rw [written, joinSql_intercalate _ hp]
  · rw [written, List.map_append, List.filter_append]
    by_cases he : p.text.isEmpty = true <;> simp [he]
  · intro t ht
    obtain ⟨hm, hne⟩ := List.mem_filter.mp ht
    obtain ⟨q, hq, rfl⟩ := List.mem_map.mp hm
    exact ⟨by simpa using hne, h q hq⟩

end Select

end SqlMapper
