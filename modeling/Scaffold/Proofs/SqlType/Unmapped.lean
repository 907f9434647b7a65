import Scaffold.Proofs.Model
import Scaffold.Proofs.SqlType.Stem

/-! The tables of outcomes agree with the list of known types, and the warnings with both. -/
namespace Scaffold

namespace SqlType

theorem Outcomes.of_of_unlisted {α : Type} {o : Outcomes α} {name : String}
    (h : ∀ row ∈ o.rows, name ∉ row.2) : o.of name = o.otherwise := by
  have hnone : o.rows.find? (·.2.contains name) = none :=
    List.find?_eq_none.mpr fun row hrow => by simpa using h row hrow
  rw [Outcomes.of, hnone]

/-- No table has a type that is not known. -/
theorem listed_known :
    (∀ row ∈ backends.rows, ∀ name ∈ row.2, name ∈ known) ∧
    (∀ row ∈ clients.rows, ∀ name ∈ row.2, name ∈ known) ∧
    (∀ row ∈ inputs.rows, ∀ name ∈ row.2, name ∈ known) := by
  decide +kernel

/-- All known types but one are among the rows for the backend. -/
theorem backend_known : ∀ name ∈ known, backends.of name = .object ↔ name = "sql_variant" := by
  decide +kernel

theorem mapping_of_not_known {sourceType : String} (h : ¬ isKnown sourceType) :
    mapping sourceType = ⟨.object, .any, .plain⟩ := by
  rw [isKnown_iff] at h
  rw [mapping]
  generalize normalize sourceType = name at h
  obtain ⟨hbackends, hclients, hinputs⟩ := listed_known
  have hbackend : backends.of name = .object :=
    Outcomes.of_of_unlisted fun row hrow hname => h (hbackends row hrow name hname)
  have hclient : clients.of name = .any :=
    Outcomes.of_of_unlisted fun row hrow hname => h (hclients row hrow name hname)
  have hinput : inputs.of name = .plain :=
    Outcomes.of_of_unlisted fun row hrow hname => h (hinputs row hrow name hname)
  rw [mappingOf, hbackend, hclient, hinput]

theorem backend_eq_object_iff {sourceType : String} (h : isKnown sourceType) :
    (mapping sourceType).backend = .object ↔ normalize sourceType = "sql_variant" := by
  dsimp only [mapping, mappingOf]
  exact backend_known (normalize sourceType) (isKnown_iff.mp h)

theorem isSome_attributes? (c : Column) : (attributes? c).isSome = isKnown c.sourceType := by
  unfold attributes? isKnown
  dsimp only
  split <;> simp_all

end SqlType

/-- Whether a warning says that a column has an unmapped type. -/
def Warning.isUnmapped : Warning → Bool
  | unmappedType .. => true
  | _ => false

namespace Model

variable {t : Table} {database : String} {b : ParamBudget} {m : Model}

theorem filter_isUnmapped (hm : build t database b = .ok m) :
    m.warnings.filter (·.isUnmapped) = typeWarnings t := by
  have hkept : (typeWarnings t).filter (·.isUnmapped) = typeWarnings t := by
    refine List.filter_eq_self.mpr fun w hw => ?_
    obtain ⟨c, -, rfl⟩ := List.mem_map.mp hw
    rfl
  rw [filter_warnings hm, filter_keyWarnings_eq_nil fun _ _ => rfl, hkept,
    filter_budgetWarnings_eq_nil fun _ _ _ _ _ => rfl, List.nil_append, List.append_nil]

/-- The columns that are warned of are those without attributes, in order. -/
theorem typeWarnings_eq (hm : build t database b = .ok m) :
    typeWarnings t = (m.columns.filter (·.attributes.isNone)).map fun c =>
      .unmappedType t.name c.name c.sourceType := by
  have hunknown : ∀ c : Column, (!SqlType.isKnown c.sourceType) =
      (SqlType.attributes? c).isNone := fun c => by
    rw [← SqlType.isSome_attributes?, Option.not_isSome]
  rw [columns_of_build hm, List.filter_map, List.map_map, typeWarnings]
  simp only [Function.comp_def, ColumnModel.of, hunknown]

/-- A type that is not known gets what is left for all others and no attributes. A known type gets
attributes, and a backend type of its own unless it is the variant type. A model warns of the
columns without attributes, in order, as ones of an unmapped type. -/
theorem unmapped_exactly_unknown :
    (∀ c : Column, ¬ SqlType.isKnown c.sourceType →
      SqlType.mapping c.sourceType = ⟨.object, .any, .plain⟩ ∧ SqlType.attributes? c = none) ∧
    (∀ c : Column, SqlType.isKnown c.sourceType →
      (SqlType.attributes? c).isSome ∧
        ((SqlType.mapping c.sourceType).backend = .object ↔
          SqlType.normalize c.sourceType = "sql_variant")) ∧
    ∀ (t : Table) (database : String) (b : ParamBudget) (m : Model), build t database b = .ok m →
      m.warnings.filter (·.isUnmapped) =
        (m.columns.filter (·.attributes.isNone)).map fun c =>
          .unmappedType t.name c.name c.sourceType := by
  refine ⟨fun c hc => ⟨?_, ?_⟩, fun c hc => ⟨?_, ?_⟩, fun t database b m hm => ?_⟩
  · exact SqlType.mapping_of_not_known hc
  · rw [← Option.not_isSome_iff_eq_none, SqlType.isSome_attributes?]
    exact hc
  · rw [SqlType.isSome_attributes?]
    exact hc
  · exact SqlType.backend_eq_object_iff hc
  · rw [filter_isUnmapped hm, typeWarnings_eq hm]

/-- A key of the variant type, which is known, beside a column of a type that is not. -/
def cursorTable : Table :=
  { name := "Jobs"
    columns := [⟨"Id", "SQL_VARIANT", true, false⟩, ⟨"Rows", "cursor", false, false⟩] }

theorem cursor_unmapped :
    ∃ m, build cursorTable "Main" {} = .ok m ∧
      m.warnings.filter (·.isUnmapped) = [.unmappedType "Jobs" "Rows" "cursor"] ∧
      SqlType.mapping "cursor" = ⟨.object, .any, .plain⟩ ∧
      (SqlType.attributes? ⟨"Id", "SQL_VARIANT", true, false⟩).isSome ∧
      (SqlType.mapping "SQL_VARIANT").backend = .object := by
  have hbuild : build cursorTable "Main" {} = .ok (derived cursorTable "Main" {}) :=
    build_eq_ok_iff.mpr ⟨by decide, rfl⟩
  have hcursor : SqlType.normalize "cursor" = "cursor" := by decide +kernel
  have hvariant : SqlType.normalize "SQL_VARIANT" = "sql_variant" := by decide +kernel
  have hunknown : ¬ SqlType.isKnown "cursor" := by
    rw [SqlType.isKnown, hcursor]
    decide
  have hknown : SqlType.isKnown "SQL_VARIANT" := by
    rw [SqlType.isKnown, hvariant]
    decide
  obtain ⟨hnot, hmapped, hall⟩ := unmapped_exactly_unknown
  obtain ⟨hsome, hbackend⟩ := hmapped ⟨"Id", "SQL_VARIANT", true, false⟩ hknown
  have htypes : typeWarnings cursorTable = [.unmappedType "Jobs" "Rows" "cursor"] := by
    simp [typeWarnings, cursorTable, hunknown, hknown]
  have hwarnings := hall cursorTable "Main" {} _ hbuild
  rw [← typeWarnings_eq hbuild, htypes] at hwarnings
  exact ⟨_, hbuild, hwarnings, (hnot ⟨"Rows", "cursor", false, false⟩ hunknown).1, hsome,
    hbackend.mpr hvariant⟩

end Model

end Scaffold
