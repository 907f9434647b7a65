import Scaffold.Proofs.Model
import Scaffold.Proofs.Schema.Key
import Scaffold.Proofs.Text.AsciiCase

/-! When the columns of a table have fields, and statements, of their own. Names are compared in
lower case for the former, and without ASCII case for the latter. -/
namespace Scaffold.Model

variable {t : Table} {database : String} {b : ParamBudget} {m : Model}

/-- The members of the client's records. -/
def fields (m : Model) : List String := m.columns.map (·.field)

theorem fields_of_build (hm : build t database b = .ok m) :
    m.fields = t.columns.map fun c => Text.lower c.name := by
  rw [fields, columns_of_build hm, List.map_map]
  rfl

theorem nodup_fields_iff (hm : build t database b = .ok m) :
    m.fields.Nodup ↔ t.columns.Pairwise fun c d => Text.lower c.name ≠ Text.lower d.name := by
  rw [fields_of_build hm, List.Nodup, List.pairwise_map]

/-- Fields of their own give columns a place of their own in statements, as lower case ignores
ASCII case too. -/
theorem pairwise_columns_of_nodup_fields (hm : build t database b = .ok m)
    (hfields : m.fields.Nodup) :
    m.statements.columns.Pairwise fun name other => ¬ Text.eqIgnoringAsciiCase name other := by
  rw [statements_of_build hm, Statements.pairwise_columns_ofTable_iff]
  refine ((nodup_fields_iff hm).mp hfields).imp fun {c d} hlower halike => ?_
  exact absurd (Text.lower_eq_of_eqIgnoringAsciiCase halike) hlower

theorem nodup_fields_iff_of_ascii (hm : build t database b = .ok m)
    (hascii : ∀ c ∈ t.columns, Text.IsAscii c.name) :
    m.fields.Nodup ↔
      t.columns.Pairwise fun c d => ¬ Text.eqIgnoringAsciiCase c.name d.name := by
  rw [nodup_fields_iff hm]
  refine List.Pairwise.iff_of_mem fun {c d} hc hd => ?_
  exact not_congr (Text.lower_eq_iff_of_isAscii (hascii c hc) (hascii d hd))

/-- An accepted table may have columns of one name. Its fields are different exactly if the names of
its columns are so in lower case. Its written columns are different, ignoring ASCII case, exactly if
no name but the key's occurs twice. Different fields are enough for both. -/
theorem fields_distinct_iff (hm : build t database b = .ok m) :
    (m.fields.Nodup ↔ t.columns.Pairwise fun c d => Text.lower c.name ≠ Text.lower d.name) ∧
    ((m.statements.columns.Pairwise fun name other => ¬ Text.eqIgnoringAsciiCase name other) ↔
      t.columns.Pairwise fun c d =>
        Text.eqIgnoringAsciiCase c.name d.name → m.key.excludes c.name) ∧
    (m.fields.Nodup →
      m.statements.columns.Pairwise fun name other => ¬ Text.eqIgnoringAsciiCase name other) ∧
    ((∀ c ∈ t.columns, Text.IsAscii c.name) → (m.fields.Nodup ↔
      t.columns.Pairwise fun c d => ¬ Text.eqIgnoringAsciiCase c.name d.name)) := by
  refine ⟨nodup_fields_iff hm, ?_, pairwise_columns_of_nodup_fields hm,
    nodup_fields_iff_of_ascii hm⟩
  rw [statements_of_build hm]
  exact Statements.pairwise_columns_ofTable_iff t m.key

theorem user_fields_distinct :
    ∃ m, build userTable "Main" {} = .ok m ∧ m.fields.Nodup ∧
      m.statements.columns.Pairwise fun name other => ¬ Text.eqIgnoringAsciiCase name other := by
  have hm := build_userTable "Main" {}
  obtain ⟨hiff, -, hwritten, -⟩ := fields_distinct_iff hm
  have hfields := hiff.mpr (by decide +kernel)
  exact ⟨_, hm, hfields, hwritten hfields⟩

/-- Two columns whose names are one in lower case. -/
def twinTable : Table :=
  { name := "Users"
    columns := [⟨"Id", "int", true, false⟩, ⟨"Name", "nvarchar", false, false⟩,
      ⟨"name", "nvarchar", false, false⟩] }

/-- Nothing keeps such a table from being accepted. -/
theorem twin_fields_meet :
    ∃ m, build twinTable "Main" {} = .ok m ∧ ¬ m.fields.Nodup ∧
      ¬ m.statements.columns.Pairwise fun name other => ¬ Text.eqIgnoringAsciiCase name other := by
  have hcapital : Text.asciiLower "Name" = "name" := by decide +kernel
  have hsmall : Text.asciiLower "name" = "name" := by decide +kernel
  have halike : Text.eqIgnoringAsciiCase "Name" "name" := by
    rw [Text.eqIgnoringAsciiCase, hcapital, hsmall, beq_self_eq_true]
  have hcolumns : (derived twinTable "Main" {}).statements.columns = ["Name", "name"] := by
    decide +kernel
  refine ⟨_, build_eq_ok_iff.mpr ⟨by decide, rfl⟩, by decide +kernel, ?_⟩
  rw [hcolumns, List.pairwise_pair, not_not]
  exact halike

end Scaffold.Model
