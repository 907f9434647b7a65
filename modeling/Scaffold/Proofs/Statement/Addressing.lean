import Scaffold.Proofs.Model
import Scaffold.Proofs.Schema.Key
import Scaffold.Proofs.Text.Escaped
import Mathlib.Data.Nat.Basic

/-! The rows that the statements on a single record address, by the condition at their end. -/
namespace Scaffold

/-- The values of a record by column name. ASCII case does not tell columns apart. -/
structure Row (α : Type) where
  value : String → α
  value_eq : ∀ {c d}, Text.eqIgnoringAsciiCase c d → value c = value d

/-- No two rows agree on all columns that are flagged as key. -/
def Table.KeyedBy {α : Type} (t : Table) (rows : List (Row α)) : Prop :=
  rows.Pairwise fun r s => ∃ c ∈ t.columns, c.flaggedKey ∧ r.value c.name ≠ s.value c.name

/-- One column equals one parameter. -/
structure Condition where
  column : String
  parameter : String
deriving DecidableEq

namespace Condition

def print (c : Condition) : String :=
  " WHERE " ++ quoteName c.column ++ " = " ++ Statements.param c.parameter ""

/-- The rows that meet the condition. -/
def select {α : Type} [DecidableEq α] (c : Condition) (parameters : String → α)
    (rows : List (Row α)) : List (Row α) :=
  rows.filter fun r => r.value c.column = parameters c.parameter

theorem print_injective {c d : Condition} (h : c.print = d.print) : c = d := by
  obtain ⟨column, parameter⟩ := c
  obtain ⟨column', parameter'⟩ := d
  simp only [print, String.append_assoc, String.append_right_inj] at h
  obtain ⟨rfl, hrest⟩ := quoteName_append_inj (by simp) (by simp) h
  obtain rfl : parameter = parameter' := by simpa [Statements.param] using hrest
  rfl

end Condition

/-- The statements on a single record that is given by its key. -/
inductive SingleRow
  | get
  | update
  | delete
deriving DecidableEq

namespace SingleRow

def text (s : Statements) : SingleRow → String
  | get => s.get
  | update => s.update
  | delete => s.delete

/-- What the statement does, without the condition. -/
def action (s : Statements) : SingleRow → String
  | get => "SELECT * FROM " ++ s.quotedTable
  | update => "UPDATE " ++ s.quotedTable ++ " SET " ++ s.setList ""
  | delete => "DELETE FROM " ++ s.quotedTable

/-- The only condition that can be read behind the action compares the key with its parameter. -/
theorem text_eq_iff (k : SingleRow) (s : Statements) (c : Condition) :
    k.text s = k.action s ++ c.print ↔ c = ⟨s.key, s.key⟩ := by
  have hjoin : ∀ a w q e p : String, a ++ w ++ q ++ e ++ p = a ++ (w ++ q ++ e ++ p) := by
    simp only [String.append_assoc, implies_true]
  have htext : k.text s = k.action s ++ (Condition.mk s.key s.key).print := by
    cases k <;> exact hjoin _ " WHERE " (quoteName s.key) " = " (Statements.param s.key "")
  rw [htext, String.append_right_inj]
  exact ⟨fun h => (Condition.print_injective h).symm, fun h => h ▸ rfl⟩

end SingleRow

section Rows

variable {α : Type}

theorem Condition.length_select_le_one [DecidableEq α] {c : Condition} {rows : List (Row α)}
    (h : rows.Pairwise fun r s => r.value c.column ≠ s.value c.column) (parameters : String → α) :
    (c.select parameters rows).length ≤ 1 := by
  have hpairwise := h.filter fun r => r.value c.column = parameters c.parameter
  have hvalue : ∀ r ∈ c.select parameters rows, r.value c.column = parameters c.parameter :=
    fun r hr => by simpa using (List.mem_filter.mp hr).2
  change (c.select parameters rows).Pairwise _ at hpairwise
  match hselected : c.select parameters rows with
  | [] => exact Nat.zero_le 1
  | [_] => exact Nat.le_refl 1
  | r :: s :: rest =>
    rw [hselected] at hpairwise hvalue
    have hne := List.rel_of_pairwise_cons hpairwise (List.mem_cons_self)
    exact absurd ((hvalue r (by simp)).trans (hvalue s (by simp)).symm) hne

/-- Where all flagged columns have one name, that name tells the records apart. -/
theorem Table.KeyedBy.pairwise {t : Table} {rows : List (Row α)} {key : String}
    (h : t.KeyedBy rows)
    (hkey : ∀ c ∈ t.columns, c.flaggedKey → Text.eqIgnoringAsciiCase key c.name) :
    rows.Pairwise fun r s => r.value key ≠ s.value key := by
  refine h.imp fun {r s} hdiffer heq => ?_
  obtain ⟨c, hc, hflag, hne⟩ := hdiffer
  have hname := hkey c hc hflag
  rw [← r.value_eq hname, ← s.value_eq hname] at hne
  exact hne heq

/-- A record with one value in one column and another value in all others. -/
def Row.single (column : String) (x y : α) : Row α where
  value := fun d => if Text.eqIgnoringAsciiCase column d then x else y
  value_eq := by
    intro c d h
    simp_all [Text.eqIgnoringAsciiCase]

theorem Row.single_value_self (column : String) (x y : α) :
    (Row.single column x y).value column = x :=
  if_pos (Text.eqIgnoringAsciiCase_self column)

theorem Row.single_value_of_ne {column d : String} (h : ¬ Text.eqIgnoringAsciiCase column d)
    (x y : α) : (Row.single column x y).value d = y := if_neg h

/-- Two records that only a second flagged column tells apart meet a condition on the first. -/
theorem exists_two_selected (α : Type) [DecidableEq α] [Nontrivial α] {t : Table} {c : Column}
    (condition : Condition) (hc : c ∈ t.columns) (hflag : c.flaggedKey)
    (hname : ¬ Text.eqIgnoringAsciiCase c.name condition.column) :
    ∃ rows : List (Row α), t.KeyedBy rows ∧
      ∃ parameters, (condition.select parameters rows).length = 2 := by
  obtain ⟨x, y, hxy⟩ := exists_pair_ne α
  refine ⟨[.single c.name x x, .single c.name y x], ?_, fun _ => x, ?_⟩
  · refine List.pairwise_pair.mpr ⟨c, hc, hflag, ?_⟩
    rw [Row.single_value_self, Row.single_value_self]
    exact hxy
  · simp [Condition.select, Row.single_value_of_ne hname]

end Rows

namespace Model

variable {t : Table} {database : String} {b : ParamBudget} {m : Model}

theorem key_of_flagged (hm : build t database b = .ok m) {k : Column} (hk : t.flaggedKey? = some k) :
    m.statements.key = k.name := by
  rw [statements_of_build hm, key_of_build hm, Statements.ofTable, Key.ofTable, hk]

/-- The statements on a single record compare the first flagged column with its parameter. They
address at most one record of every table with unique keys exactly as long as no flagged column
has another name than the first one. -/
theorem addresses_one_row_iff (hm : build t database b = .ok m)
    (hkey : ∃ c ∈ t.columns, c.flaggedKey) (α : Type) [DecidableEq α] [Nontrivial α] :
    ∃ k, t.flaggedKey? = some k ∧
      (∀ (s : SingleRow) (c : Condition),
        s.text m.statements = s.action m.statements ++ c.print ↔ c = ⟨k.name, k.name⟩) ∧
      ((∀ rows : List (Row α), t.KeyedBy rows → ∀ parameters,
          ((Condition.mk k.name k.name).select parameters rows).length ≤ 1) ↔
        ∀ c ∈ t.columns, c.flaggedKey → Text.eqIgnoringAsciiCase k.name c.name) := by
  obtain ⟨k, hk⟩ : ∃ k, t.flaggedKey? = some k := by
    rw [← Option.isSome_iff_exists, Table.flaggedKey?, List.find?_isSome]
    exact hkey
  refine ⟨k, hk, fun s c => ?_, ?_, ?_⟩
  · rw [SingleRow.text_eq_iff, key_of_flagged hm hk]
  · intro h c hc hflag
    by_cases hname : Text.eqIgnoringAsciiCase k.name c.name
    · exact hname
    · obtain ⟨rows, hrows, parameters, htwo⟩ :=
        exists_two_selected α ⟨k.name, k.name⟩ hc hflag (by rwa [Text.eqIgnoringAsciiCase_comm])
      have hle := h rows hrows parameters
      omega
  · intro h rows hrows parameters
    exact Condition.length_select_le_one (hrows.pairwise h) parameters

/-- The identifier is the whole key of a user. -/
theorem users_addressed_by_id :
    ∃ m, build userTable "Main" {} = .ok m ∧ (∃ c ∈ userTable.columns, c.flaggedKey) ∧
      ∀ rows : List (Row Nat), userTable.KeyedBy rows → ∀ parameters,
        ((Condition.mk "Id" "Id").select parameters rows).length ≤ 1 := by
  have hbuild := build_userTable "Main" {}
  have hflagged : ∃ c ∈ userTable.columns, c.flaggedKey := by decide
  obtain ⟨k, hk, -, hiff⟩ := addresses_one_row_iff hbuild hflagged Nat
  obtain rfl : Column.mk "Id" "int" true true = k := Option.some.inj hk
  exact ⟨_, hbuild, hflagged, hiff.mpr (by decide +kernel)⟩

/-- The lines of an order have its number and one of their own. -/
def lineTable : Table :=
  { name := "OrderLines"
    columns := [⟨"OrderId", "int", true, false⟩, ⟨"Line", "int", true, false⟩,
      ⟨"Quantity", "int", false, false⟩] }

theorem build_lineTable (database : String) (b : ParamBudget) :
    build lineTable database b = .ok (derived lineTable database b) :=
  build_eq_ok_iff.mpr ⟨by decide, rfl⟩

/-- A deletion by the order's number takes both of its lines. -/
theorem delete_addresses_two_lines :
    ¬ ∀ (t : Table) (database : String) (b : ParamBudget) (m : Model),
      build t database b = .ok m → (∃ c ∈ t.columns, c.flaggedKey) →
      ∀ (s : SingleRow) (c : Condition), s.text m.statements = s.action m.statements ++ c.print →
      ∀ rows : List (Row Nat), t.KeyedBy rows → ∀ parameters,
        (c.select parameters rows).length ≤ 1 := by
  intro h
  let rows : List (Row Nat) := [.single "Line" 1 7, .single "Line" 2 7]
  have hdelete := (SingleRow.delete.text_eq_iff (derived lineTable "Main" {}).statements
    ⟨"OrderId", "OrderId"⟩).mpr (by decide +kernel)
  have hrows : lineTable.KeyedBy rows := by
    refine List.pairwise_pair.mpr ⟨⟨"Line", "int", true, false⟩, by decide, rfl, ?_⟩
    rw [Row.single_value_self, Row.single_value_self]
    decide
  have hle := h lineTable "Main" {} _ (build_lineTable "Main" {}) (by decide) .delete
    ⟨"OrderId", "OrderId"⟩ hdelete rows hrows fun _ => 7
  have hname : ¬ Text.eqIgnoringAsciiCase "Line" "OrderId" := by decide +kernel
  simp [Condition.select, rows, Row.single_value_of_ne hname] at hle

end Model

end Scaffold
