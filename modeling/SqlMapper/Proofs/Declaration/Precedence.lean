import SqlMapper.Declaration.Struct
import SqlMapper.Proofs.Condition.Tag
import SqlMapper.Proofs.Declaration.Options
import SqlMapper.Proofs.Text.Split

/-! What the options of a field come to when there are several. The last one of a kind counts, the
kinds take precedence over one another in a fixed way, and how options of different kinds are mixed
does not matter. -/

namespace SqlMapper

namespace FieldOption

inductive Kind where
  | name
  | keyword
  | column
  | primaryKey
  | exist
  | flatten
  | rename
  deriving DecidableEq, Repr

def kind : FieldOption → Kind
  | .name _ => .name
  | .keyword _ => .keyword
  | .column _ => .column
  | .primaryKey => .primaryKey
  | .exist _ => .exist
  | .flatten => .flatten
  | .rename _ => .rename

def ofKind (k : Kind) (options : List FieldOption) : List FieldOption :=
  options.filter fun o => o.kind = k

def text? : FieldOption → Option String
  | .name s | .keyword s | .column s | .rename s => some s
  | .primaryKey | .exist _ | .flatten => none

def lastText? (k : Kind) (options : List FieldOption) : Option String :=
  (ofKind k options).getLast?.bind text?

/-- The column of the last name, unless that is blank. -/
def givenColumn? (options : List FieldOption) : Option String :=
  (lastText? .name options).bind fun text => Text.present? ((Text.commaParts text).headD "")

theorem mem_ofKind {k : Kind} {options : List FieldOption} {o : FieldOption} :
    o ∈ ofKind k options ↔ o ∈ options ∧ o.kind = k := by
  simp [ofKind]

theorem ofKind_concat (k : Kind) (options : List FieldOption) (o : FieldOption) :
    ofKind k (options ++ [o]) = ofKind k options ++ if o.kind = k then [o] else [] := by
  rw [ofKind, List.filter_append, List.filter_singleton]
  simp [ofKind]

theorem lastText?_concat (k : Kind) (options : List FieldOption) (o : FieldOption) :
    lastText? k (options ++ [o]) = if o.kind = k then o.text? else lastText? k options := by
  rw [lastText?, ofKind_concat]
  by_cases hk : o.kind = k <;> simp [hk, lastText?]

end FieldOption

namespace FieldSettings

open FieldOption (ofKind lastText? givenColumn?)

theorem columnOf_eq (text : String) :
    columnOf text = Text.present? ((Text.commaParts text).headD "") := by
  rw [columnOf, nameParts, Text.map_trim_splitOn_comma, Text.filter_isEmpty_eq_bind]
  cases Text.commaParts text <;> rfl

theorem marksKey_iff {text : String} :
    marksKey text = true ↔ "primary_key" ∈ (Text.commaParts text).tail := by
  rw [marksKey, nameParts, Text.map_trim_splitOn_comma, List.contains_iff_mem]

/-- The settings as they are read off the options of each kind. -/
def ofOptions (options : List FieldOption) : FieldSettings where
  name := givenColumn? options
  rename := lastText? .rename options
  keyword := (lastText? .keyword options).getD ""
  column := lastText? .column options
  primaryKey := (ofKind .primaryKey options).contains .primaryKey ||
    (ofKind .name options).any fun o => o.text?.any marksKey
  exist := (ofKind .exist options).getLast? != some (.exist false)
  flatten := (ofKind .flatten options).contains .flatten

theorem exist_bne_false (flag : Bool) :
    (some (FieldOption.exist flag) != some (.exist false)) = flag := by
  cases flag <;> rfl

theorem take_ofOptions (options : List FieldOption) (o : FieldOption) :
    (ofOptions options).take o = ofOptions (options ++ [o]) := by
  cases o <;>
    simp [take, ofOptions, givenColumn?, FieldOption.lastText?_concat, FieldOption.ofKind_concat,
      FieldOption.kind, FieldOption.text?, columnOf_eq, exist_bne_false, Bool.or_assoc]

theorem foldl_take_ofOptions (options rest : List FieldOption) :
    rest.foldl take (ofOptions options) = ofOptions (options ++ rest) := by
  induction rest generalizing options with
  | nil => rw [List.append_nil, List.foldl_nil]
  | cons o rest ih => rw [List.foldl_cons, take_ofOptions, ih, ← List.append_cons]

theorem foldl_take_initial (options : List FieldOption) :
    options.foldl take initial = ofOptions options :=
  foldl_take_ofOptions [] options

theorem flatten_ofOptions {options : List FieldOption} :
    (ofOptions options).flatten = true ↔ .flatten ∈ options := by
  simp [ofOptions, FieldOption.mem_ofKind, FieldOption.kind]

theorem primaryKey_ofOptions {options : List FieldOption} :
    (ofOptions options).primaryKey = true ↔ .primaryKey ∈ options ∨
      ∃ text, .name text ∈ options ∧ "primary_key" ∈ (Text.commaParts text).tail := by
  rw [ofOptions, Bool.or_eq_true, List.contains_iff_mem, FieldOption.mem_ofKind, List.any_eq_true]
  refine or_congr (and_iff_left rfl) ⟨fun ⟨o, ho, hmark⟩ => ?_, fun ⟨text, ho, hmark⟩ => ?_⟩
  · obtain ⟨hmem, hkind⟩ := FieldOption.mem_ofKind.mp ho
    cases o with
    | name text => exact ⟨text, hmem, marksKey_iff.mp hmark⟩
    | keyword | column | primaryKey | exist | flatten | rename => cases hkind
  · exact ⟨.name text, FieldOption.mem_ofKind.mpr ⟨ho, rfl⟩, marksKey_iff.mpr hmark⟩

theorem ofOptions_eq_of_ofKind {options others : List FieldOption}
    (h : ∀ k, ofKind k others = ofKind k options) : ofOptions others = ofOptions options := by
  simp only [ofOptions, givenColumn?, lastText?, h]

end FieldSettings

namespace FieldSpec

open FieldOption (ofKind lastText? givenColumn?)

variable {ident : String} {options : List FieldOption}

/-- What the options of a field come to. -/
structure Resolves (ident : String) (options : List FieldOption) (spec : FieldSpec) : Prop where
  field : spec.columnMeta.field = ident
  /-- A name takes precedence over a renaming, and a renaming over the identifier. -/
  column : spec.columnMeta.column =
    ((givenColumn? options).or (lastText? .rename options)).getD (Text.underscoreDeclared ident)
  /-- A dash for a name takes precedence over all flags. -/
  exist : spec.exist = true ↔
    givenColumn? options ≠ some "-" ∧ (ofKind .exist options).getLast? ≠ some (.exist false)
  flatten : spec.flatten = true ↔ .flatten ∈ options
  /-- One mark is enough, wherever it stands. -/
  primaryKey : spec.columnMeta.primaryKey = true ↔
    .primaryKey ∈ options ∨
      ∃ text, .name text ∈ options ∧ "primary_key" ∈ (Text.commaParts text).tail
  keyword : ∀ k : Keyword, k.IsNamed (Text.beforeComma ((lastText? .keyword options).getD "")) →
    spec.columnMeta.keyword = k
  keyword_unknown :
    (∀ k : Keyword, ¬k.IsNamed (Text.beforeComma ((lastText? .keyword options).getD ""))) →
      spec.columnMeta.keyword = .eq
  /-- An option for it takes precedence over the tag of the operator, and that over the column. -/
  compareColumn : spec.columnMeta.compareColumn =
    (((lastText? .column options).bind Text.present?).or
      ((lastText? .keyword options).bind Text.afterComma?)).getD spec.columnMeta.column

theorem columnMeta_eq (s : FieldSpec) :
    s.columnMeta = ⟨s.ident, s.column, Keyword.parse (Text.beforeComma s.keyword),
      ((Text.present? s.compareColumn).or (Text.afterComma? s.keyword)).getD s.column,
      s.primaryKey⟩ := by
  rw [columnMeta, ColumnMeta.withKeyword, Keyword.parseTag_eq]
  by_cases hc : s.compareColumn = "" <;>
    simp [hc, ColumnMeta.plain, ColumnMeta.withCompareColumn, ColumnMeta.withPrimaryKey,
      Text.present?]

theorem ofOptions_eq (ident : String) (options : List FieldOption) :
    ofOptions ident options = (FieldSettings.ofOptions options).resolve ident := by
  rw [ofOptions, FieldSettings.foldl_take_initial]

theorem keyword_resolve (ident : String) (options : List FieldOption) :
    (ofOptions ident options).columnMeta.keyword =
      Keyword.parse (Text.beforeComma ((lastText? .keyword options).getD "")) := by
  rw [ofOptions_eq, columnMeta_eq, FieldSettings.resolve, FieldSettings.ofOptions]

theorem resolves_ofOptions (ident : String) (options : List FieldOption) :
    Resolves ident options (ofOptions ident options) := by
  constructor
  case field =>
    rw [columnMeta_eq, ofOptions_eq]
    rfl
  case column =>
    rw [columnMeta_eq, ofOptions_eq]
    rfl
  case exist =>
    rw [ofOptions_eq]
    simp [FieldSettings.resolve, FieldSettings.ofOptions, and_comm]
  case flatten =>
    rw [ofOptions_eq]
    exact FieldSettings.flatten_ofOptions
  case primaryKey =>
    rw [columnMeta_eq, ofOptions_eq]
    exact FieldSettings.primaryKey_ofOptions
  case keyword =>
    intro k hk
    rw [keyword_resolve]
    exact Keyword.parse_of_isNamed hk
  case keyword_unknown =>
    intro h
    rw [keyword_resolve]
    exact Keyword.parse_of_not_isNamed h
  case compareColumn =>
    rw [columnMeta_eq, ofOptions_eq]
    simp only [FieldSettings.resolve, FieldSettings.ofOptions, Text.present?_getD,
      Text.afterComma?_getD]

theorem ofAttributes_of_give {attributes : List Attribute}
    (h : Attribute.Give attributes options) :
    ofAttributes ident attributes = .ok (ofOptions ident options) := by
  rw [ofAttributes, (FieldOption.ofAttributes_eq_ok_iff _).mpr h, map_ok]

theorem exists_ofAttributes_iff {attributes : List Attribute} :
    (∃ spec, ofAttributes ident attributes = .ok spec) ↔
      ∃ options, Attribute.Give attributes options := by
  refine ⟨fun ⟨spec, h⟩ => ?_, fun ⟨options, h⟩ => ⟨_, ofAttributes_of_give h⟩⟩
  obtain ⟨options, hoptions, -⟩ := exists_of_map_eq_ok h
  exact ⟨options, (FieldOption.ofAttributes_eq_ok_iff _).mp hoptions⟩

end FieldSpec

open FieldOption (ofKind)

/-- What a field is resolved to. It depends on the options of each kind alone: any attributes that
give the same ones in the same order, however they are mixed with others, come to the same. -/
structure FieldDeclaration.ResolvesTo (f : FieldDeclaration) (options : List FieldOption)
    (spec : FieldSpec) : Prop where
  resolves : spec.Resolves f.ident options
  rearranged : ∀ others rearranged, Attribute.Give others rearranged →
    (∀ k, ofKind k rearranged = ofKind k options) →
      FieldSpec.ofAttributes f.ident others = .ok spec

theorem FieldDeclaration.resolvesTo_ofOptions (f : FieldDeclaration) (options : List FieldOption) :
    f.ResolvesTo options (.ofOptions f.ident options) where
  resolves := FieldSpec.resolves_ofOptions f.ident options
  rearranged others rearranged h hkinds := by
    rw [FieldSpec.ofAttributes_of_give h, FieldSpec.ofOptions_eq, FieldSpec.ofOptions_eq,
      FieldSettings.ofOptions_eq_of_ofKind hkinds]

namespace Declaration

theorem fieldSpecs_of_struct {d : Declaration} (h : d.shape = .struct) (deriver : String) :
    d.fieldSpecs deriver =
      d.fields.mapM fun f => FieldSpec.ofAttributes f.ident f.attributes := by
  rw [fieldSpecs, h]

/-- The fields of a struct are accepted exactly if the attributes of each one give some options, and
each one is resolved by the rules of precedence. -/
theorem fieldSpecs_resolve {d : Declaration} (h : d.shape = .struct) (deriver : String) :
    ((∃ specs, d.fieldSpecs deriver = .ok specs) ↔
      ∀ f ∈ d.fields, ∃ options, Attribute.Give f.attributes options) ∧
    ∀ specs, d.fieldSpecs deriver = .ok specs →
      List.Forall₂ (fun f spec => ∀ options, Attribute.Give f.attributes options →
        f.ResolvesTo options spec) d.fields specs := by
  rw [fieldSpecs_of_struct h deriver]
  refine ⟨⟨fun ⟨specs, hspecs⟩ f hf => ?_, fun hall => ?_⟩, fun specs hspecs => ?_⟩
  · obtain ⟨spec, -, hspec⟩ := exists_mem_of_mapM_eq_ok hspecs hf
    exact FieldSpec.exists_ofAttributes_iff.mp ⟨spec, hspec⟩
  · exact exists_mapM_eq_ok fun f hf => FieldSpec.exists_ofAttributes_iff.mpr (hall f hf)
  · refine (forall₂_of_mapM_eq_ok hspecs).imp fun f spec hspec options hoptions => ?_
    obtain rfl : FieldSpec.ofOptions f.ident options = spec :=
      Except.ok.inj ((FieldSpec.ofAttributes_of_give hoptions).symm.trans hspec)
    exact f.resolvesTo_ofOptions options

def renamedAttributes : List Attribute :=
  [.list (.named "serde") [.setting "rename" (.text "kind")],
   .list (.named "field") [.setting "name" (.text "k, primary_key"), .flag "skip"],
   .list (.named "field") [.setting "keyword" (.text "LIKE, alt"), .setting "name" (.text " "),
     .setting "exist" (.bool true)]]

def rearrangedAttributes : List Attribute :=
  [.list (.named "field") [.flag "skip", .setting "name" (.text "k, primary_key"),
     .setting "exist" (.bool true), .setting "keyword" (.text "LIKE, alt")],
   .value (.named "field") (.text " "),
   .list (.named "serde") [.setting "rename" (.text "kind")]]

/-- The blank name leaves the column to the renaming, and the mark of the name before it stays. -/
theorem fieldSpecs_resolve_renamed :
    ∃ spec, fieldSpecs ⟨"Item", .struct, [], [⟨"r#type", renamedAttributes⟩]⟩ "Criteria" =
        .ok [spec] ∧
      spec.columnMeta.column = "kind" ∧ spec.columnMeta.keyword = .like ∧
      spec.columnMeta.compareColumn = "alt" ∧ spec.columnMeta.primaryKey = true ∧
      spec.exist = true ∧ FieldSpec.ofAttributes "r#type" rearrangedAttributes = .ok spec := by
  have hgive : Attribute.Give renamedAttributes
      [.rename "kind", .name "k, primary_key", .exist false, .keyword "LIKE, alt", .name " ",
       .exist true] :=
    (FieldOption.ofAttributes_eq_ok_iff "r#type").mp rfl
  have hothers : Attribute.Give rearrangedAttributes
      [.exist false, .name "k, primary_key", .exist true, .keyword "LIKE, alt", .name " ",
       .rename "kind"] :=
    (FieldOption.ofAttributes_eq_ok_iff "r#type").mp rfl
  have hmain := fieldSpecs_resolve (d := ⟨"Item", .struct, [], [⟨"r#type", renamedAttributes⟩]⟩)
    rfl "Criteria"
  obtain ⟨specs, hspecs⟩ := hmain.1.mpr fun f hf => by
    rw [List.mem_singleton.mp hf]
    exact ⟨_, hgive⟩
  cases hmain.2 specs hspecs with
  | cons hfield hnil =>
    cases hnil
    rename_i spec
    obtain ⟨hresolves, hrearranged⟩ := hfield _ hgive
    have hcolumn : spec.columnMeta.column = "kind" := hresolves.column.trans (by decide)
    refine ⟨spec, hspecs, hcolumn, hresolves.keyword .like (by decide), ?_, ?_, ?_, ?_⟩
    · rw [hresolves.compareColumn, hcolumn]
      decide
    · exact hresolves.primaryKey.mpr (.inr ⟨"k, primary_key", by simp, by decide⟩)
    · exact hresolves.exist.mpr (by decide)
    · exact hrearranged _ _ hothers fun k => by cases k <;> decide

end Declaration

end SqlMapper
