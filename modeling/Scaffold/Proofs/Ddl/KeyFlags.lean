import Scaffold.Ddl.TableDefinition
import Scaffold.Proofs.Text.AsciiCase

/-! Which columns of a table definition are flagged as keys. -/
namespace Scaffold.Ddl

open TableDefinition

/-- Of the columns whose names have the property, the first with each name is flagged. Names that
differ in ASCII case only are the same. -/
def flagFirsts (P : String → Bool) : List Column → List Column
  | [] => []
  | c :: cs =>
    { c with flaggedKey := c.flaggedKey || P c.name } ::
      flagFirsts (fun name => P name && !Text.eqIgnoringAsciiCase c.name name) cs

theorem flagFirsts_false (cs : List Column) : flagFirsts (fun _ => false) cs = cs := by
  induction cs with
  | nil => rfl
  | cons c cs ih =>
    simp only [flagFirsts, Bool.or_false, Bool.false_and]
    rw [ih]

/-- One listed name is a property that ends with its first column. -/
theorem flagFirst_eq_flagFirsts (name : String) (cs : List Column) :
    flagFirst name cs = flagFirsts (Text.eqIgnoringAsciiCase · name) cs := by
  induction cs with
  | nil => rfl
  | cons c cs ih =>
    rw [flagFirst, flagFirsts]
    split
    · rename_i hfirst
      have hrest : (fun other => Text.eqIgnoringAsciiCase other name &&
          !Text.eqIgnoringAsciiCase c.name other) = fun _ => false := by
        funext other
        rw [Text.eqIgnoringAsciiCase_congr hfirst, Text.eqIgnoringAsciiCase_comm,
          Bool.and_not_self]
      rw [hrest, flagFirsts_false, hfirst, Bool.or_true]
    · rename_i hother
      have hfalse : Text.eqIgnoringAsciiCase c.name name = false := by simpa using hother
      have hrest : (fun other => Text.eqIgnoringAsciiCase other name &&
          !Text.eqIgnoringAsciiCase c.name other) = (Text.eqIgnoringAsciiCase · name) := by
        funext other
        cases hsame : Text.eqIgnoringAsciiCase other name with
        | false => rfl
        | true =>
          rw [Text.eqIgnoringAsciiCase_comm, Text.eqIgnoringAsciiCase_congr hsame,
            Text.eqIgnoringAsciiCase_comm, hfalse]
          rfl
      rw [hrest, ih, hfalse, Bool.or_false]

/-- Flagging twice flags for either property. -/
theorem flagFirsts_flagFirsts (P Q : String → Bool) (cs : List Column) :
    flagFirsts P (flagFirsts Q cs) = flagFirsts (fun name => Q name || P name) cs := by
  induction cs generalizing P Q with
  | nil => rfl
  | cons c cs ih => simp only [flagFirsts, ih, Bool.or_assoc, ← Bool.and_or_distrib_right]

theorem foldl_flagFirst (names : List String) (cs : List Column) :
    names.foldl (fun cs name => flagFirst name cs) cs =
      flagFirsts (fun name => names.any (Text.eqIgnoringAsciiCase name)) cs := by
  induction names generalizing cs with
  | nil => exact (flagFirsts_false cs).symm
  | cons name names ih =>
    rw [List.foldl_cons, ih, flagFirst_eq_flagFirsts, flagFirsts_flagFirsts]
    rfl

theorem length_flagFirsts (P : String → Bool) (cs : List Column) :
    (flagFirsts P cs).length = cs.length := by
  induction cs generalizing P with
  | nil => rfl
  | cons c cs ih => rw [flagFirsts, List.length_cons, List.length_cons, ih]

theorem getElem?_flagFirsts (P : String → Bool) (cs : List Column) (i : Nat) :
    (flagFirsts P cs)[i]? = cs[i]?.map fun c =>
      { c with
        flaggedKey := c.flaggedKey ||
          P c.name && (cs.take i).all (!Text.eqIgnoringAsciiCase ·.name c.name) } := by
  induction cs generalizing P i with
  | nil => rfl
  | cons d cs ih =>
    cases i with
    | zero => simp [flagFirsts]
    | succ i =>
      rw [flagFirsts, List.getElem?_cons_succ, List.getElem?_cons_succ, ih]
      simp only [List.take_succ_cons, List.all_cons, Bool.and_assoc]

namespace TableDefinition

variable {d e : TableDefinition}

/-- A key constraint of the table has the part. -/
def Lists (d : TableDefinition) (p : KeyPart) : Prop :=
  ∃ parts, TableConstraint.primaryKey parts ∈ d.constraints ∧ p ∈ parts

/-- The column is the first one with the name of the part; ASCII case does not count. -/
def IsFirstNamed (d : TableDefinition) (i : Nat) (c : ColumnDefinition) (p : KeyPart) : Prop :=
  Text.eqIgnoringAsciiCase c.name.value p.name ∧
    ∀ j < i, ∀ c', d.columns[j]? = some c' → ¬ Text.eqIgnoringAsciiCase c'.name.value p.name

theorem mem_keyNames_iff {name : String} :
    name ∈ d.keyNames ↔ ∃ p, d.Lists p ∧ p.name = name := by
  rw [keyNames, List.mem_flatMap]
  constructor
  · rintro ⟨constraint, hconstraint, hname⟩
    cases constraint with
    | primaryKey parts =>
      obtain ⟨p, hp, rfl⟩ := List.mem_map.mp hname
      exact ⟨p, ⟨parts, hconstraint, hp⟩, rfl⟩
    | other => cases hname
  · rintro ⟨p, ⟨parts, hparts, hp⟩, rfl⟩
    exact ⟨.primaryKey parts, hparts, List.mem_map_of_mem hp⟩

/-- Whether a listed name is a given one depends on the listed parts, in any order. -/
theorem any_keyNames_iff {name : String} :
    d.keyNames.any (Text.eqIgnoringAsciiCase name) ↔
      ∃ p, d.Lists p ∧ Text.eqIgnoringAsciiCase name p.name := by
  rw [List.any_eq_true]
  constructor
  · rintro ⟨_, hlisted, hname⟩
    obtain ⟨p, hp, rfl⟩ := mem_keyNames_iff.mp hlisted
    exact ⟨p, hp, hname⟩
  · rintro ⟨p, hp, hname⟩
    exact ⟨p.name, mem_keyNames_iff.mpr ⟨p, hp, rfl⟩, hname⟩

theorem columns_toTable (d : TableDefinition) :
    d.toTable.columns = flagFirsts (fun name => d.keyNames.any (Text.eqIgnoringAsciiCase name))
      (d.columns.map (·.toColumn)) := foldl_flagFirst _ _

/-- No earlier column has the listed name exactly if none has the name of the column itself. -/
theorem isFirstNamed_iff {i : Nat} {c : ColumnDefinition} {p : KeyPart} :
    d.IsFirstNamed i c p ↔ Text.eqIgnoringAsciiCase c.name.value p.name ∧
      ((d.columns.map (·.toColumn)).take i).all
        (!Text.eqIgnoringAsciiCase ·.name c.name.value) := by
  rw [IsFirstNamed]
  refine and_congr_right fun hname => ?_
  have hsame : ∀ c' : ColumnDefinition, Text.eqIgnoringAsciiCase c'.name.value p.name =
      Text.eqIgnoringAsciiCase c'.name.value c.name.value := by
    intro c'
    rw [Text.eqIgnoringAsciiCase_comm, ← Text.eqIgnoringAsciiCase_congr hname,
      Text.eqIgnoringAsciiCase_comm]
  simp only [hsame, ← List.map_take, List.all_map, List.all_eq_true, Function.comp_apply,
    ColumnDefinition.toColumn, Bool.not_eq_true']
  constructor
  · intro hearlier c' hmem
    obtain ⟨j, hj⟩ := List.mem_iff_getElem?.mp hmem
    rw [List.getElem?_take] at hj
    split at hj
    · rename_i hlt
      simpa using hearlier j hlt c' hj
    · contradiction
  · intro hall j hlt c' hj
    have hmem : c' ∈ d.columns.take i :=
      List.mem_iff_getElem?.mpr ⟨j, by rw [List.getElem?_take, if_pos hlt, hj]⟩
    simpa using hall c' hmem

theorem getElem?_toTable {i : Nat} {c : ColumnDefinition} (hc : d.columns[i]? = some c) :
    ∃ flag : Bool, d.toTable.columns[i]? = some { c.toColumn with flaggedKey := flag } ∧
      (flag ↔ ColumnOption.primaryKey ∈ c.options ∨
        ∃ p, d.Lists p ∧ d.IsFirstNamed i c p) := by
  have hcolumn := getElem?_flagFirsts
    (fun name => d.keyNames.any (Text.eqIgnoringAsciiCase name)) (d.columns.map (·.toColumn)) i
  rw [← columns_toTable, List.getElem?_map, hc] at hcolumn
  refine ⟨_, hcolumn, ?_⟩
  have hinline : c.toColumn.flaggedKey ↔ ColumnOption.primaryKey ∈ c.options := by
    simp [ColumnDefinition.toColumn]
  rw [Bool.or_eq_true, Bool.and_eq_true, hinline, any_keyNames_iff]
  refine or_congr_right ?_
  simp only [isFirstNamed_iff]
  constructor
  · rintro ⟨⟨p, hp, hname⟩, hfirst⟩
    exact ⟨p, hp, hname, hfirst⟩
  · rintro ⟨p, hp, hname, hfirst⟩
    exact ⟨⟨p, hp, hname⟩, hfirst⟩

theorem toTable_eq_of_lists (hname : e.name = d.name) (hcolumns : e.columns = d.columns)
    (hlists : ∀ p, e.Lists p ↔ d.Lists p) : e.toTable = d.toTable := by
  have hnames : (fun name => e.keyNames.any (Text.eqIgnoringAsciiCase name)) =
      fun name => d.keyNames.any (Text.eqIgnoringAsciiCase name) := by
    funext name
    rw [Bool.eq_iff_iff, any_keyNames_iff, any_keyNames_iff]
    simp only [hlists]
  rw [toTable, toTable, foldl_flagFirst, foldl_flagFirst, hnames, hcolumns, tableName, tableName,
    hname]

/-- A column is flagged for its own option or as the first one with a listed name, and nothing
else about it depends on the constraints. In them only the set of listed parts matters. -/
theorem toTable_flags_keys (d : TableDefinition) :
    d.toTable.columns.length = d.columns.length ∧
      (∀ i c, d.columns[i]? = some c →
        ∃ flag : Bool, d.toTable.columns[i]? = some { c.toColumn with flaggedKey := flag } ∧
          (flag ↔ ColumnOption.primaryKey ∈ c.options ∨
            ∃ p, d.Lists p ∧ d.IsFirstNamed i c p)) ∧
      ∀ e : TableDefinition, e.name = d.name → e.columns = d.columns →
        (∀ p, e.Lists p ↔ d.Lists p) → e.toTable = d.toTable := by
  refine ⟨?_, fun i c hc => getElem?_toTable hc,
    fun e hname hcolumns hlists => toTable_eq_of_lists hname hcolumns hlists⟩
  rw [columns_toTable, length_flagFirsts, List.length_map]

/-- Two columns have one name. A key constraint lists it, and besides what no column is called. -/
def orderLines : TableDefinition :=
  let int : DataType := .known "INT" [] ""
  { name := [⟨"dbo", none⟩, ⟨"OrderLines", some '['⟩]
    columns := [⟨⟨"OrderId", none⟩, int, [.other "IDENTITY(1, 1)"]⟩, ⟨⟨"orderid", none⟩, int, []⟩,
      ⟨⟨"Number", none⟩, int, [.other "NOT NULL", .primaryKey]⟩]
    constraints := [.primaryKey [.column ⟨"ORDERID", none⟩, .expression "a + b"], .other] }

/-- The listed parts in another order, one of them twice. -/
def relistedLines : TableDefinition :=
  { orderLines with
    constraints := [.other, .primaryKey [.expression "a + b", .column ⟨"ORDERID", none⟩],
      .primaryKey [.column ⟨"ORDERID", none⟩]] }

theorem order_lines_flagged :
    orderLines.toTable.columns[0]? = some ⟨"OrderId", "int", true, true⟩ ∧
      relistedLines.toTable = orderLines.toTable := by
  obtain ⟨-, hflags, hrelisted⟩ := toTable_flags_keys orderLines
  obtain ⟨flag, hcolumn, hflag⟩ := hflags 0 _ rfl
  have hlisted : orderLines.Lists (.column ⟨"ORDERID", none⟩) :=
    ⟨_, List.mem_cons_self, List.mem_cons_self⟩
  have hname : Text.eqIgnoringAsciiCase "OrderId" "ORDERID" := by
    rw [Text.eqIgnoringAsciiCase_eq_toList]
    decide +kernel
  have hset : flag = true := hflag.mpr (.inr ⟨_, hlisted, hname, by simp⟩)
  subst hset
  refine ⟨hcolumn.trans (by decide +kernel), hrelisted relistedLines rfl rfl fun p => ?_⟩
  simp [Lists, relistedLines, orderLines, or_comm]

end TableDefinition

end Scaffold.Ddl
