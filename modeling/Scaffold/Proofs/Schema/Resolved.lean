import Scaffold.Proofs.Model
import Scaffold.Proofs.Schema.Key

/-! The key of a model parts its columns. Statements write those of other names, which are not all
as long as the key is a column. -/
namespace Scaffold

/-- Whether a warning says that a table has no flagged key. -/
def Warning.isAssumedKey : Warning → Bool
  | assumedKey .. => true
  | _ => false

namespace Model

variable {t : Table} {database : String} {b : ParamBudget} {m : Model}

theorem resolved_iff_of_build (hm : build t database b = .ok m) {k : Key} :
    Key.Resolved t k ↔ m.key = k := by
  rw [key_of_build hm]
  exact Key.resolved_iff

theorem filter_isAssumedKey (hm : build t database b = .ok m) :
    m.warnings.filter (·.isAssumedKey) = keyWarnings t m.key := by
  have hkept : (keyWarnings t m.key).filter (·.isAssumedKey) = keyWarnings t m.key := by
    unfold keyWarnings
    split <;> rfl
  rw [filter_warnings hm, hkept, filter_typeWarnings_eq_nil fun _ _ _ => rfl,
    filter_budgetWarnings_eq_nil fun _ _ _ _ _ => rfl, List.append_nil, List.append_nil]

theorem columns_eq_written (hm : build t database b = .ok m) :
    m.statements.columns = m.written.map (·.name) := by
  rw [written, columns_of_build hm, List.filter_map, List.map_map, statements_of_build hm]
  rfl

theorem columns_eq_filter (hm : build t database b = .ok m) :
    m.statements.columns = (t.columns.map (·.name)).filter
      (!Text.eqIgnoringAsciiCase · m.key.name) := by
  rw [statements_of_build hm, Statements.columns_ofTable, List.filter_map]
  simp only [Function.comp_def, Key.excludes, Text.eqIgnoringAsciiCase_comm (s := m.key.name)]

/-- A key with a source type is a column of the model, which has the key's name and types. -/
theorem exists_key_column (hm : build t database b = .ok m) (htype : m.key.sourceType.isSome) :
    ∃ c ∈ m.columns, c.name = m.key.name ∧ c.isKey ∧ c.backend = m.keyBackend ∧
      c.client = m.keyClient := by
  obtain ⟨c, hc, hname, hsource⟩ := ((resolved_iff_of_build hm).mpr rfl).exists_column htype
  have htypes : (m.keyBackend, m.keyClient) =
      ((SqlType.mapping c.sourceType).backend, (SqlType.mapping c.sourceType).client) := by
    rw [keyTypes_of_build hm, keyTypes, hsource]
  obtain ⟨hbackend, hclient⟩ := Prod.mk.inj htypes
  have hmem : ColumnModel.of m.key c ∈ m.columns := by
    rw [columns_of_build hm]
    exact List.mem_map_of_mem hc
  have hexcluded : m.key.excludes c.name := hname ▸ m.key.excludes_name
  refine ⟨_, hmem, ?_⟩
  dsimp only [ColumnModel.of]
  exact ⟨hname, hexcluded, hbackend.symm, hclient.symm⟩

/-- The model of an accepted table has the one key that the table resolves to, and warns of it
exactly if no column is flagged. Statements write the columns of other names, in order. The counts
differ exactly if the key is a column, and that column has the key's types. -/
theorem key_partitions_columns (ht : t.fault? = none) (database : String) (b : ParamBudget) :
    ∃ m, build t database b = .ok m ∧
      (∀ k, Key.Resolved t k ↔ m.key = k) ∧
      ((∀ c ∈ t.columns, ¬ c.flaggedKey) →
        m.warnings.filter (·.isAssumedKey) = [.assumedKey t.name m.key.name]) ∧
      ((∃ c ∈ t.columns, c.flaggedKey) → m.warnings.filter (·.isAssumedKey) = []) ∧
      m.statements.columns = m.written.map (·.name) ∧
      m.statements.columns = (t.columns.map (·.name)).filter
        (!Text.eqIgnoringAsciiCase · m.key.name) ∧
      m.statements.counts.total = t.columns.length ∧
      (m.statements.counts.nonKey < m.statements.counts.total ↔ m.key.sourceType.isSome) ∧
      (m.key.sourceType.isSome → ∃ c ∈ m.columns, c.name = m.key.name ∧ c.isKey ∧
        c.backend = m.keyBackend ∧ c.client = m.keyClient) := by
  obtain ⟨m, hm⟩ : ∃ m, build t database b = .ok m := ⟨_, build_eq_ok_iff.mpr ⟨ht, rfl⟩⟩
  have hresolved : Key.Resolved t m.key := (resolved_iff_of_build hm).mpr rfl
  refine ⟨m, hm, fun k => resolved_iff_of_build hm, fun hflags => ?_, fun ⟨c, hc, hflag⟩ => ?_,
    columns_eq_written hm, columns_eq_filter hm, ?_, ?_, exists_key_column hm⟩
  · rw [filter_isAssumedKey hm, keyWarnings, if_pos (hresolved.assumed_iff.mpr hflags)]
  · rw [filter_isAssumedKey hm, keyWarnings,
      if_neg fun hassumed => hresolved.assumed_iff.mp hassumed c hc hflag]
  · rw [statements_of_build hm, Statements.total_ofTable]
  · rw [statements_of_build hm, Statements.nonKey_lt_total_ofTable_iff,
      hresolved.isSome_sourceType_iff]

/-- No column is flagged, and two have the default name but for their case. -/
def logTable : Table :=
  { name := "Logs"
    columns := [⟨"Text", "nvarchar", false, false⟩, ⟨"ID", "bigint", false, true⟩,
      ⟨"id", "int", false, false⟩] }

/-- The first of the two is the key, and neither is written. -/
theorem log_key_resolved :
    logTable.fault? = none ∧ ∃ m, build logTable "Main" {} = .ok m ∧
      m.key = ⟨"ID", true, true, some "bigint"⟩ ∧ m.statements.columns = ["Text"] ∧
      m.warnings.filter (·.isAssumedKey) = [.assumedKey "Logs" "ID"] ∧
      m.statements.counts.nonKey < m.statements.counts.total ∧
      ∃ c ∈ m.columns, c.name = "ID" ∧ c.isKey ∧ c.backend = m.keyBackend := by
  have ht : logTable.fault? = none := by decide
  have hflags : ∀ c ∈ logTable.columns, ¬ c.flaggedKey := by decide
  have hfirst : logTable.IsFirst (Text.eqIgnoringAsciiCase ·.name Key.defaultName)
      ⟨"ID", "bigint", false, true⟩ := by
    refine ⟨[⟨"Text", "nvarchar", false, false⟩], [⟨"id", "int", false, false⟩], rfl, ?_⟩
    simp only [Text.eqIgnoringAsciiCase_eq_toList]
    decide
  have hwritten : (logTable.columns.map (·.name)).filter
      (!Text.eqIgnoringAsciiCase · "ID") = ["Text"] := by
    simp only [Text.eqIgnoringAsciiCase_eq_toList]
    decide
  have hkey : Key.Resolved logTable ⟨"ID", true, true, some "bigint"⟩ := .named hflags hfirst
  obtain ⟨m, hm, hresolved, hwarned, -, -, hcolumns, -, hcounts, hcolumn⟩ :=
    key_partitions_columns ht "Main" {}
  have hwarning := hwarned hflags
  rw [(hresolved _).mp hkey] at hcolumns hcounts hcolumn hwarning
  obtain ⟨c, hc, hname, hexcluded, hbackend, -⟩ := hcolumn rfl
  exact ⟨ht, m, hm, (hresolved _).mp hkey, hcolumns.trans hwritten, hwarning,
    hcounts.mpr rfl, c, hc, hname, hexcluded, hbackend⟩

end Model

end Scaffold
