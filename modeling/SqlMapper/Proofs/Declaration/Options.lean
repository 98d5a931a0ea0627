import SqlMapper.Declaration.Field
import SqlMapper.Proofs.Outcome

/-! Which options the attributes of a field give: a relation with one case for each way of writing
an option, and the checker accepts exactly what is related to some options. -/

namespace SqlMapper

namespace AttributePath

def named (name : String) : AttributePath := ⟨false, [name]⟩

theorem isName_iff {p : AttributePath} {name : String} :
    p.isName name = true ↔ p = named name := by
  obtain ⟨rooted, names⟩ := p
  simp [isName, named]

theorem nameOrEmpty_named (name : String) : (named name).nameOrEmpty = name := rfl

theorem eq_named_of_nameOrEmpty {p : AttributePath} {name : String} (h : p.nameOrEmpty = name)
    (hname : name ≠ "") : p = named name := by
  obtain ⟨rooted, names⟩ := p
  unfold nameOrEmpty at h
  split at h
  · rename_i only hrooted hnames
    rw [named, ← h, ← hrooted, ← hnames]
  · exact absurd h.symm hname

end AttributePath

namespace AttributeItem

def flag (name : String) : AttributeItem := .attribute (.path (.named name))

def setting (name : String) (literal : Literal) : AttributeItem :=
  .attribute (.value (.named name) literal)

/-- The options that items of a field stand for. -/
inductive Gives : AttributeItem → FieldOption → Prop
  | primaryKey : Gives (flag "primary_key") .primaryKey
  | flatten : Gives (flag "flatten") .flatten
  | skip : Gives (flag "skip") (.exist false)
  | name (text : String) : Gives (setting "name" (.text text)) (.name text)
  | keyword (tag : String) : Gives (setting "keyword" (.text tag)) (.keyword tag)
  | column (text : String) (h : Text.trim text ≠ "-") :
      Gives (setting "column" (.text text)) (.column text)
  | dash (text : String) (h : Text.trim text = "-") :
      Gives (setting "column" (.text text)) (.exist false)
  | exist (literal : Literal) (b : Bool) (h : literal.bool? = some b) :
      Gives (setting "exist" literal) (.exist b)

end AttributeItem

namespace Attribute

open AttributePath (named)
open AttributeItem (setting)

/-- The options that one attribute of a field stands for. Of the new names in a list the first one
that is a text counts, and an attribute for others stands for nothing. -/
inductive Gives : Attribute → List FieldOption → Prop
  | items {items : List AttributeItem} {options : List FieldOption}
      (h : List.Forall₂ AttributeItem.Gives items options) :
      Gives (.list (named "field") items) options
  | name (text : String) : Gives (.value (named "field") (.text text)) [.name text]
  | rename {front : List AttributeItem} (name : String) (back : List AttributeItem)
      (h : ∀ s, setting "rename" (.text s) ∉ front) :
      Gives (.list (named "serde") (front ++ setting "rename" (.text name) :: back)) [.rename name]
  | noRename {items : List AttributeItem} (h : ∀ s, setting "rename" (.text s) ∉ items) :
      Gives (.list (named "serde") items) []
  | other {a : Attribute} (hfield : a.head ≠ named "field")
      (hserde : ∀ items, a ≠ .list (named "serde") items) : Gives a []

/-- The options of all attributes of a field, in the order in which they are written. -/
def Give (attributes : List Attribute) (options : List FieldOption) : Prop :=
  ∃ parts, List.Forall₂ Gives attributes parts ∧ parts.flatten = options

end Attribute

theorem Literal.text?_eq_some_iff {l : Literal} {s : String} : l.text? = some s ↔ l = .text s := by
  cases l <;> simp [text?]

namespace FieldOption

open AttributePath (named)

theorem requireText_eq_ok_iff {option : String} {literal : Literal} {s : String} :
    requireText option literal = .ok s ↔ literal = .text s := by
  cases literal <;> simp [requireText, Literal.text?]

theorem map_requireText_eq_ok_iff {option : String} {literal : Literal} {f : String → FieldOption}
    {o : FieldOption} :
    (requireText option literal).map f = .ok o ↔ ∃ s, literal = .text s ∧ f s = o := by
  constructor
  · intro h
    obtain ⟨s, hs, ho⟩ := exists_of_map_eq_ok h
    exact ⟨s, requireText_eq_ok_iff.mp hs, ho⟩
  · rintro ⟨s, rfl, rfl⟩
    rfl

theorem ofItem_eq_ok_of_gives {field : String} {item : AttributeItem} {o : FieldOption}
    (h : item.Gives o) : ofItem field item = .ok o := by
  cases h with
  | primaryKey | flatten | skip | name text | keyword tag => rfl
  | column text hdash => exact congrArg Except.ok (if_neg hdash)
  | dash text hdash => exact congrArg Except.ok (if_pos hdash)
  | exist literal b hb => simp [AttributeItem.setting, ofItem, AttributePath.nameOrEmpty_named, hb]

theorem gives_of_ofItem_eq_ok {field : String} {item : AttributeItem} {o : FieldOption}
    (h : ofItem field item = .ok o) : item.Gives o := by
  unfold ofItem at h
  split at h
  · split at h <;> rename_i hname
    · obtain rfl := AttributePath.eq_named_of_nameOrEmpty hname (by decide)
      cases h
      exact .primaryKey
    · obtain rfl := AttributePath.eq_named_of_nameOrEmpty hname (by decide)
      cases h
      exact .flatten
    · obtain rfl := AttributePath.eq_named_of_nameOrEmpty hname (by decide)
      cases h
      exact .skip
    · cases h
  · split at h <;> rename_i hname
    · obtain rfl := AttributePath.eq_named_of_nameOrEmpty hname (by decide)
      obtain ⟨text, rfl, rfl⟩ := map_requireText_eq_ok_iff.mp h
      exact .name text
    · obtain rfl := AttributePath.eq_named_of_nameOrEmpty hname (by decide)
      obtain ⟨tag, rfl, rfl⟩ := map_requireText_eq_ok_iff.mp h
      exact .keyword tag
    · obtain rfl := AttributePath.eq_named_of_nameOrEmpty hname (by decide)
      obtain ⟨text, rfl, rfl⟩ := map_requireText_eq_ok_iff.mp h
      unfold ofColumn
      split
      · exact .dash text ‹_›
      · exact .column text ‹_›
    · obtain rfl := AttributePath.eq_named_of_nameOrEmpty hname (by decide)
      split at h
      · cases h
        exact .exist _ _ ‹_›
      · cases h
    · cases h
  · cases h

theorem renameOf_eq_some_iff {item : AttributeItem} {name : String} :
    renameOf item = some name ↔ item = .setting "rename" (.text name) := by
  constructor
  · intro h
    unfold renameOf at h
    split at h
    · split at h
      · rename_i hname
        rw [AttributePath.isName_iff.mp hname, Literal.text?_eq_some_iff.mp h]
        rfl
      · cases h
    · cases h
  · rintro rfl
    rfl

theorem renameOf_eq_none_iff {items : List AttributeItem} :
    (∀ item ∈ items, renameOf item = none) ↔
      ∀ s, AttributeItem.setting "rename" (.text s) ∉ items := by
  constructor
  · intro h s hs
    cases (h _ hs).symm.trans (renameOf_eq_some_iff.mpr rfl)
  · intro h item hitem
    rw [Option.eq_none_iff_forall_ne_some]
    intro s hs
    exact h s (renameOf_eq_some_iff.mp hs ▸ hitem)

theorem ofAttribute_serde (field : String) (items : List AttributeItem) :
    ofAttribute field (.list (named "serde") items) =
      .ok ((items.findSome? renameOf).map .rename).toList := rfl

theorem ofAttribute_field (field : String) (items : List AttributeItem) :
    ofAttribute field (.list (named "field") items) = items.mapM (ofItem field) := rfl

theorem gives_of_serde {items : List AttributeItem} :
    (Attribute.list (named "serde") items).Gives
      ((items.findSome? renameOf).map .rename).toList := by
  cases h : items.findSome? renameOf with
  | none => exact .noRename (renameOf_eq_none_iff.mp (List.findSome?_eq_none_iff.mp h))
  | some name =>
    obtain ⟨front, item, back, rfl, hitem, hfront⟩ := List.findSome?_eq_some_iff.mp h
    rw [renameOf_eq_some_iff.mp hitem]
    exact .rename name back (renameOf_eq_none_iff.mp hfront)

theorem gives_of_ofAttribute_eq_ok {field : String} {a : Attribute} {options : List FieldOption}
    (h : ofAttribute field a = .ok options) : a.Gives options := by
  unfold ofAttribute at h
  split at h
  · rename_i hserde
    have hhead := AttributePath.isName_iff.mp hserde
    have hfield : a.head ≠ named "field" := by
      rw [hhead]
      decide
    cases a with
    | list p items =>
      cases h
      obtain rfl : p = named "serde" := hhead
      exact gives_of_serde
    | path p | value p literal =>
      cases h
      exact .other hfield fun items => nofun
  · rename_i hserde
    split at h
    · rename_i hfield
      have hhead := AttributePath.isName_iff.mp hfield
      cases a with
      | list p items =>
        obtain rfl : p = named "field" := hhead
        exact .items ((forall₂_of_mapM_eq_ok h).imp fun _ _ => gives_of_ofItem_eq_ok)
      | value p literal =>
        obtain rfl : p = named "field" := hhead
        cases literal with
        | text s =>
          cases h
          exact .name s
        | bool b | integer n => cases h
      | path p => cases h
    · rename_i hfield
      cases h
      rw [AttributePath.isName_iff] at hserde hfield
      refine .other hfield fun items => ?_
      rintro rfl
      exact hserde rfl

theorem ofAttribute_eq_ok_of_gives {field : String} {a : Attribute} {options : List FieldOption}
    (h : a.Gives options) : ofAttribute field a = .ok options := by
  cases h with
  | items h =>
    rw [ofAttribute_field, mapM_eq_ok_iff_forall₂]
    exact h.imp fun _ _ => ofItem_eq_ok_of_gives
  | name text => rfl
  | rename name back h =>
    rw [ofAttribute_serde, List.findSome?_append,
      List.findSome?_eq_none_iff.mpr (renameOf_eq_none_iff.mpr h), Option.none_or,
      List.findSome?_cons, renameOf_eq_some_iff.mpr rfl]
    rfl
  | noRename h =>
    rw [ofAttribute_serde, List.findSome?_eq_none_iff.mpr (renameOf_eq_none_iff.mpr h)]
    rfl
  | other hfield hserde =>
    unfold ofAttribute
    rw [if_neg (mt AttributePath.isName_iff.mp hfield)]
    split
    · rename_i hname
      have hhead := AttributePath.isName_iff.mp hname
      cases a with
      | list p items => exact absurd (congrArg (Attribute.list · items) hhead) (hserde items)
      | path p | value p literal => rfl
    · rfl

theorem ofAttributes_eq_ok_iff (field : String) {attributes : List Attribute}
    {options : List FieldOption} :
    ofAttributes field attributes = .ok options ↔ Attribute.Give attributes options := by
  constructor
  · intro h
    obtain ⟨parts, hparts, ho⟩ := exists_of_map_eq_ok h
    exact ⟨parts, (forall₂_of_mapM_eq_ok hparts).imp fun _ _ => gives_of_ofAttribute_eq_ok, ho⟩
  · rintro ⟨parts, hparts, rfl⟩
    have hall : attributes.mapM (ofAttribute field) = .ok parts :=
      mapM_eq_ok_iff_forall₂.mpr (hparts.imp fun _ _ => ofAttribute_eq_ok_of_gives)
    rw [ofAttributes, hall]
    rfl

end FieldOption

end SqlMapper
