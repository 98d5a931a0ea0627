import SqlMapper.Proofs.Outcome
import SqlMapper.Proofs.Text.Underscore
import SqlMapper.Record.Basic

/-! Tables named after their structs. A declaration that names no table takes the underscore form of
its own name, by which no two names in camel case are confused. -/

namespace SqlMapper.Record

open Text (underscore underscoreDeclared)

/-- A struct made from a declaration that names no table. -/
def Defaults (r : Record) (d : Declaration) : Prop :=
  d.tables = .ok [] ∧ ∃ contents, ofDeclaration d contents = .ok r

theorem Defaults.table_eq {r : Record} {d : Declaration} (h : r.Defaults d) :
    r.table = underscoreDeclared d.name := by
  obtain ⟨hnone, contents, hr⟩ := h
  unfold ofDeclaration at hr
  obtain ⟨tables, htables, hr⟩ := exists_of_bind_eq_ok hr
  obtain ⟨specs, -, hr⟩ := exists_of_bind_eq_ok hr
  obtain rfl : tables = [] := Except.ok.inj (htables.symm.trans hnone)
  cases hr
  rfl

theorem Defaults.table_eq_iff {r s : Record} {d e : Declaration} (hr : r.Defaults d)
    (hs : s.Defaults e) (hd : d.name.toList ∈ Text.camelNames)
    (he : e.name.toList ∈ Text.camelNames) : r.table = s.table ↔ d.name = e.name := by
  rw [hr.table_eq, hs.table_eq,
    Text.underscoreDeclared_of_words (Text.words_of_camelNames hd),
    Text.underscoreDeclared_of_words (Text.words_of_camelNames he)]
  exact Text.underscore_injOn.eq_iff hd he

/-- The declared form of a name is the plain one behind all raw marks. For a word it has no capitals
and does not change any more, and different names in camel case have different ones, so that their
structs never share a table by default. -/
theorem names_in_underscores :
    (∀ name : String, ∃ n rest,
      name.toList = (List.replicate n "r#".toList).flatten ++ rest.toList ∧
      ¬"r#".toList <+: rest.toList ∧ underscoreDeclared name = underscore rest) ∧
    (∀ name : String, name.toList ∈ Text.words →
      (∀ c ∈ (underscore name).toList, Text.isUppercase c = false) ∧
      underscore (underscore name) = underscore name ∧
      underscoreDeclared name = underscore name) ∧
    Set.InjOn underscore {name | name.toList ∈ Text.camelNames} ∧
    ∀ (d e : Declaration) (r s : Record), d.name.toList ∈ Text.camelNames →
      e.name.toList ∈ Text.camelNames → r.Defaults d → s.Defaults e →
      (r.table = s.table ↔ d.name = e.name) := by
  refine ⟨Text.exists_underscoreDeclared_eq, fun name h => ⟨?_, ?_, ?_⟩, Text.underscore_injOn,
    fun d e r s hd he hr hs => hr.table_eq_iff hs hd he⟩
  · exact fun _ => Text.isUppercase_of_mem_underscore h
  · exact Text.underscore_underscore h
  · exact Text.underscoreDeclared_of_words h

/-- A run of capitals is told from a word with one. -/
theorem names_in_underscores_userIds :
    let d : Declaration := ⟨"UserID", .struct, [], []⟩
    let e : Declaration := ⟨"UserId", .struct, [], []⟩
    let r : Record := ⟨"UserID", "user_i_d", .nil⟩
    let s : Record := ⟨"UserId", "user_id", .nil⟩
    (d.name.toList ∈ Text.camelNames ∧ e.name.toList ∈ Text.camelNames ∧
      r.Defaults d ∧ s.Defaults e) ∧
    r.table ≠ s.table ∧ underscore d.name ≠ underscore e.name ∧
    underscore (underscore d.name) = underscore d.name := by
  intro d e r s
  obtain ⟨-, hword, hinj, htable⟩ := names_in_underscores
  have hd : d.name.toList ∈ Text.camelNames := by decide
  have he : e.name.toList ∈ Text.camelNames := by decide
  have hr : r.Defaults d := by
    have hname : underscoreDeclared "UserID" = "user_i_d" := by decide
    have hmade : ofDeclaration d [] = .ok ⟨"UserID", underscoreDeclared "UserID", .nil⟩ := rfl
    rw [hname] at hmade
    exact ⟨rfl, [], hmade⟩
  have hs : s.Defaults e := by
    have hname : underscoreDeclared "UserId" = "user_id" := by decide
    have hmade : ofDeclaration e [] = .ok ⟨"UserId", underscoreDeclared "UserId", .nil⟩ := rfl
    rw [hname] at hmade
    exact ⟨rfl, [], hmade⟩
  have hne : d.name ≠ e.name := by decide
  refine ⟨⟨hd, he, hr, hs⟩, ?_, ?_, ?_⟩
  · exact fun h => hne ((htable d e r s hd he hr hs).mp h)
  · exact fun h => hne (hinj hd he h)
  · exact (hword d.name (Text.words_of_camelNames hd)).2.1

end SqlMapper.Record
