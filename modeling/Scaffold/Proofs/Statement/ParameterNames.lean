import Scaffold.Proofs.Model
import Scaffold.Proofs.Schema.Key
import Scaffold.Proofs.Statement.Rendering

/-! The parameters of one chunk, and the number of rows up to which their names differ. -/
namespace Scaffold

namespace Statements

variable {t : Table}

theorem mem_boundNames_ofTable {op : Bulk} {name : String}
    (h : name ∈ (ofTable t (Key.ofTable t)).boundNames op) :
    (∃ c ∈ t.columns, c.name = name) ∨ name = Key.defaultName := by
  rcases mem_boundNames h with hcolumn | rfl
  · exact .inl (mem_columns_ofTable.mp hcolumn).1
  · exact (Key.name_ofTable t).imp (fun ⟨c, hc, heq⟩ => ⟨c, hc, heq.symm⟩) id

theorem nodup_boundNames (k : Key) (op : Bulk)
    (h : t.columns.Pairwise fun c d => ¬ Text.eqIgnoringAsciiCase c.name d.name) :
    ((ofTable t k).boundNames op).Nodup := by
  have hcolumns := nodup_columns_ofTable k h
  cases op with
  | getMultiple => exact List.nodup_singleton _
  | insertMultiple => exact hcolumns
  | updateMultiple =>
    have hkey : k.name ∉ (ofTable t k).columns := key_not_mem_columns t k
    exact hcolumns.append (List.nodup_singleton _) (List.disjoint_singleton.mpr hkey)
  | deleteMultiple => exact List.nodup_singleton _

end Statements

namespace Model

open Piece

variable {t : Table} {database : String} {b : ParamBudget} {m : Model}

/-- Names without an opening brace hold no mark of a row. -/
theorem rowMark_absent (hm : build t database b = .ok m)
    (hbrace : ∀ c ∈ t.columns, '\x7b' ∉ c.name.toList) (op : Bulk) :
    ∀ name ∈ m.statements.boundNames op, ¬ Statements.rowMark.toList <:+: name.toList := by
  rw [statements_of_build hm, key_of_build hm]
  intro name hname hmark
  have hopen : '\x7b' ∈ name.toList := hmark.subset (by decide)
  obtain ⟨c, hc, rfl⟩ | rfl := Statements.mem_boundNames_ofTable hname
  · exact hbrace c hc hopen
  · exact absurd hopen (by decide)

/-- A chunk binds the names that its operation writes, numbered row by row. They are pairwise
different exactly as long as no name is another one with a positive number behind it of which the
tenfold is a row of the chunk. -/
theorem nodup_chunk_parameters_iff (hm : build t database b = .ok m)
    (hcase : t.columns.Pairwise fun c d => ¬ Text.eqIgnoringAsciiCase c.name d.name)
    (hbrace : ∀ c ∈ t.columns, '\x7b' ∉ c.name.toList) (op : Bulk) (rows : Nat) :
    printAll (m.statements.chunkPieces op rows) = m.statements.render op rows ∧
      parameters (m.statements.chunkPieces op rows) =
        Text.numbered (m.statements.boundNames op) rows ∧
      ((parameters (m.statements.chunkPieces op rows)).Nodup ↔
        ∀ c ∈ m.statements.boundNames op, ∀ d ∈ m.statements.boundNames op,
          ∀ k, 0 < k → d = c ++ toString k → rows ≤ 10 * k) := by
  have hnames := Statements.parameters_chunkPieces rows (rowMark_absent hm hbrace op)
  refine ⟨m.statements.printAll_chunkPieces op rows, hnames, ?_⟩
  rw [hnames, Text.nodup_numbered_iff]
  rw [statements_of_build hm]
  exact Statements.nodup_boundNames m.key op hcase

/-- One column is called like another one with a digit behind it. -/
def serialTable : Table :=
  { name := "Parts"
    columns := [⟨"Id", "int", true, false⟩, ⟨"A", "int", false, false⟩,
      ⟨"A1", "int", false, false⟩] }

theorem build_serialTable (database : String) (b : ParamBudget) :
    build serialTable database b = .ok (derived serialTable database b) :=
  build_eq_ok_iff.mpr ⟨by decide, rfl⟩

theorem serialTable_names_differ :
    serialTable.columns.Pairwise fun c d => ¬ Text.eqIgnoringAsciiCase c.name d.name := by
  decide +kernel

/-- Ten rows are still fine. -/
theorem nodup_parameters_of_ten_rows :
    ∃ m, build serialTable "Main" {} = .ok m ∧
      (serialTable.columns.Pairwise fun c d => ¬ Text.eqIgnoringAsciiCase c.name d.name) ∧
      (∀ c ∈ serialTable.columns, '\x7b' ∉ c.name.toList) ∧
      (parameters (m.statements.chunkPieces .updateMultiple 10)).Nodup :=
  ⟨_, build_serialTable "Main" {}, serialTable_names_differ, by decide,
    (nodup_chunk_parameters_iff (build_serialTable "Main" {}) serialTable_names_differ (by decide)
      .updateMultiple 10).2.2.mpr fun _ _ _ _ k hk _ => by omega⟩

/-- The eleventh row of the shorter name and the first row of the longer one bind one name. -/
theorem parameters_of_eleven_rows_meet :
    ¬ ∀ (t : Table) (database : String) (b : ParamBudget) (m : Model),
      build t database b = .ok m →
      (t.columns.Pairwise fun c d => ¬ Text.eqIgnoringAsciiCase c.name d.name) →
      (∀ c ∈ t.columns, '\x7b' ∉ c.name.toList) →
      ∀ (op : Bulk) (rows : Nat), (parameters (m.statements.chunkPieces op rows)).Nodup := by
  intro h
  have hbuild := build_serialTable "Main" {}
  have hnodup := h serialTable "Main" {} _ hbuild serialTable_names_differ (by decide)
    .insertMultiple 11
  have hcolumns : (derived serialTable "Main" {}).statements.boundNames .insertMultiple =
      ["A", "A1"] := by decide +kernel
  rw [Statements.parameters_chunkPieces 11 (rowMark_absent hbuild (by decide) .insertMultiple),
    hcolumns, Text.nodup_numbered_iff (by decide)] at hnodup
  have hle := hnodup "A" (by decide) "A1" (by decide) 1 (by decide) (by decide)
  omega

end Model

end Scaffold
