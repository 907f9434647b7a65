import Scaffold.Proofs.Model
import Scaffold.Proofs.Statement.Rendering
import Scaffold.Proofs.Text.Escaped

/-! Templates filled in row by row, against the same statements written out. -/
namespace Scaffold.Statements

open Piece

/-- The parameters of so many keys, from `@key0` on. -/
def keyList (s : Statements) (rows : Nat) : String :=
  ",".intercalate ((List.range rows).map fun i => "@" ++ s.key ++ toString i)

/-- The statement of a chunk without a template: the numbers and the list of keys are written where
they belong. -/
def writtenOut (s : Statements) (op : Bulk) (rows : Nat) : String :=
  match op with
  | .getMultiple =>
    "SELECT * FROM " ++ s.quotedTable ++ " WHERE " ++ s.quotedKey ++
      " IN (" ++ s.keyList rows ++ ")"
  | .insertMultiple =>
    " ".intercalate ((List.range rows).map fun i => s.insertWith (toString i) false ++ ";")
  | .updateMultiple =>
    " ".intercalate ((List.range rows).map fun i => s.updateWith (toString i) ++ ";")
  | .deleteMultiple =>
    "DELETE FROM " ++ s.quotedTable ++ " WHERE " ++ s.quotedKey ++ " IN (" ++ s.keyList rows ++ ")"

/-- What the template of a chunk leaves to be filled in. -/
def mark : Bulk → String
  | .getMultiple | .deleteMultiple => idsMark
  | .insertMultiple | .updateMultiple => rowMark

/-- The mark of the operation does not occur in the text. -/
def Unmarked (op : Bulk) (t : String) : Prop := ¬ (mark op).toList <:+: t.toList

theorem mark_ne_empty (op : Bulk) : mark op ≠ "" := by cases op <;> decide

theorem unmarked_of_not_mem (op : Bulk) {t : String} (h : '\x7b' ∉ t.toList) : Unmarked op t := by
  have hbrace : '\x7b' ∈ (mark op).toList := by cases op <;> decide
  exact fun hmark => h (hmark.subset hbrace)

theorem unmarked_quoteName_append_iff (op : Bulk) (name t : String) :
    Unmarked op (quoteName name ++ t) ↔ Unmarked op name ∧ Unmarked op t := by
  have hopen : '[' ∉ (mark op).toList := by cases op <;> decide
  have hclose : ']' ∉ (mark op).toList := by cases op <;> decide
  unfold Unmarked
  rw [infix_quoteName_append_iff (mark_ne_empty op) hopen hclose, not_or]

/-- The text has no character in common with the mark. -/
def apart (op : Bulk) (t : String) : Bool := t.toList.all fun c => !(mark op).toList.contains c

theorem unmarked_append_iff_of_apart {op : Bulk} {literal : String} (h : apart op literal)
    (t : String) : Unmarked op (literal ++ t) ↔ Unmarked op t := by
  have hdisjoint : ∀ c ∈ literal.toList, c ∉ (mark op).toList := by simpa [apart] using h
  exact not_congr (Text.infix_append_iff_of_disjoint (mark_ne_empty op) hdisjoint)

theorem unmarked_columnList_append_iff (op : Bulk) (s : Statements) (t : String) :
    Unmarked op (s.columnList ++ t) ↔ (∀ c ∈ s.columns, Unmarked op c) ∧ Unmarked op t := by
  unfold columnList
  induction s.columns with
  | nil => simp
  | cons c cs ih =>
    rw [List.forall_mem_cons]
    cases cs with
    | nil =>
      rw [List.map_singleton, String.intercalate_singleton, unmarked_quoteName_append_iff]
      simp
    | cons d ds =>
      have hcomma : apart op "," := by cases op <;> decide
      rw [List.map_cons] at ih
      rw [List.map_cons, List.map_cons, String.intercalate_cons_cons, String.append_assoc,
        String.append_assoc, unmarked_quoteName_append_iff, unmarked_append_iff_of_apart hcomma, ih,
        and_assoc]

theorem unmarked_keyed_iff {op : Bulk} {verb : String} (hverb : apart op verb) (s : Statements) :
    Unmarked op (verb ++ s.quotedTable ++ " WHERE " ++ s.quotedKey ++ " IN (") ↔
      Unmarked op s.table ∧ Unmarked op s.key := by
  have hwhere : apart op " WHERE " := by cases op <;> decide
  have hin : Unmarked op " IN (" := unmarked_of_not_mem op (by decide)
  simp only [quotedTable, quotedKey, String.append_assoc, unmarked_append_iff_of_apart hverb,
    unmarked_append_iff_of_apart hwhere, unmarked_quoteName_append_iff, hin, and_true]

theorem exists_intercalate_range (sep : String) (row : Nat → String) {rows : Nat} (h : 0 < rows) :
    ∃ rest, sep.intercalate ((List.range rows).map row) = row 0 ++ rest := by
  obtain ⟨n, rfl⟩ := Nat.exists_eq_add_of_lt h
  rw [Nat.zero_add, List.range_succ_eq_map, List.map_cons]
  cases (List.range n).map Nat.succ with
  | nil => exact ⟨"", by simp⟩
  | cons i is =>
    exact ⟨_, by rw [List.map_cons, String.intercalate_cons_cons, String.append_assoc]⟩

theorem head_idList (s : Statements) {rows : Nat} (h : 0 < rows) :
    '@' ∈ (s.idList rows).toList.head? := by
  obtain ⟨rest, hrest⟩ := exists_intercalate_range "," (fun i => param s.key (toString i)) h
  rw [idList, hrest]
  simp [param]

/-- Filled in, the template has its list where it belongs; it is the statement written out unless a
name is taken for the list too. -/
theorem replace_idsMark_eq_iff {ids : String} (h : '@' ∈ ids.toList.head?) (front : String) :
    Text.replace idsMark ids (front ++ idsMark ++ ")") = front ++ ids ++ ")" ↔
      ¬ idsMark.toList <:+: front.toList := by
  rw [replace_idsMark_append, String.append_assoc, String.append_assoc]
  constructor
  · exact fun heq => (Text.replace_append_inj (by decide) ⟨'@', h, by decide⟩ heq).1
  · exact fun habsent => by rw [Text.replace_of_absent habsent]

theorem insertRow_eq (s : Statements) (suffix : String) :
    s.insertRow suffix = (s.insertRow "").map (suffixed suffix) := by
  have hcolumns : s.columns.map (fun c => [parameter (c ++ suffix)]) =
      (s.columns.map fun c => [parameter (c ++ "")]).map (List.map (suffixed suffix)) := by
    simp [suffixed, Function.comp_def]
  unfold insertRow insertPieces
  dsimp only
  split
  · rfl
  · rw [hcolumns, ← map_between rfl]
    simp [suffixed]

theorem updateRow_eq (s : Statements) (suffix : String) :
    s.updateRow suffix = (s.updateRow "").map (suffixed suffix) := by
  have hcolumns : s.columns.map (fun c => [text (quoteName c ++ " = "), parameter (c ++ suffix)]) =
      (s.columns.map fun c => [text (quoteName c ++ " = "), parameter (c ++ "")]).map
        (List.map (suffixed suffix)) := by
    simp [suffixed, Function.comp_def]
  unfold updateRow updatePieces
  rw [hcolumns, ← map_between rfl]
  simp [suffixed]

/-- Whether a name in a row holds a mark shows in the pieces. -/
theorem insertRow_unmarked_iff (op : Bulk) (s : Statements) :
    (∀ p ∈ s.insertRow "", Unmarked op p.content) ↔
      ∀ name ∈ s.table :: s.columns, Unmarked op name := by
  have hinto : apart op "INSERT INTO " := by cases op <;> decide
  have hopen : apart op " (" := by cases op <;> decide
  have hcomma : Unmarked op (text ",").content := unmarked_of_not_mem op (by decide)
  have hdefault : Unmarked op " DEFAULT VALUES" := unmarked_of_not_mem op (by decide)
  have hvalues : Unmarked op (")" ++ " VALUES (") := unmarked_of_not_mem op (by decide)
  have hclose : Unmarked op ")" := unmarked_of_not_mem op (by decide)
  have hend : Unmarked op ";" := unmarked_of_not_mem op (by decide)
  unfold insertRow insertPieces
  dsimp only
  split
  · rename_i hempty
    rw [List.isEmpty_iff.mp hempty]
    rw [List.forall_mem_append, List.forall_mem_singleton, List.forall_mem_singleton,
      List.forall_mem_singleton]
    simp only [content, quotedTable, Bool.false_eq_true, if_false, String.append_empty,
      String.append_assoc, unmarked_append_iff_of_apart hinto, unmarked_quoteName_append_iff,
      hdefault, hend, and_true]
  · rw [List.forall_mem_append, List.forall_mem_append, List.forall_mem_cons,
      forall_mem_between hcomma, List.forall_mem_map, List.forall_mem_singleton,
      List.forall_mem_singleton, List.forall_mem_cons]
    simp only [List.forall_mem_singleton, content, quotedTable, Bool.false_eq_true, if_false,
      String.append_empty, String.append_assoc, unmarked_append_iff_of_apart hinto,
      unmarked_append_iff_of_apart hopen, unmarked_quoteName_append_iff,
      unmarked_columnList_append_iff, hvalues, hclose, hend, and_true, and_assoc, and_self]

theorem updateRow_unmarked_iff (op : Bulk) (s : Statements) :
    (∀ p ∈ s.updateRow "", Unmarked op p.content) ↔
      ∀ name ∈ s.table :: (s.columns ++ [s.key]), Unmarked op name := by
  have hupdate : apart op "UPDATE " := by cases op <;> decide
  have hwhere : apart op " WHERE " := by cases op <;> decide
  have hcomma : Unmarked op (text ", ").content := unmarked_of_not_mem op (by decide)
  have hset : Unmarked op " SET " := unmarked_of_not_mem op (by decide)
  have hequals : Unmarked op " = " := unmarked_of_not_mem op (by decide)
  have hend : Unmarked op ";" := unmarked_of_not_mem op (by decide)
  unfold updateRow updatePieces
  rw [List.forall_mem_append, List.forall_mem_append, List.forall_mem_cons,
    forall_mem_between hcomma, List.forall_mem_map, List.forall_mem_cons, List.forall_mem_singleton,
    List.forall_mem_singleton, List.forall_mem_cons, List.forall_mem_append,
    List.forall_mem_singleton]
  simp only [List.forall_mem_cons, List.not_mem_nil, false_imp_iff, implies_true, content,
    quotedTable, quotedKey, String.append_empty, String.append_assoc,
    unmarked_append_iff_of_apart hupdate, unmarked_append_iff_of_apart hwhere,
    unmarked_quoteName_append_iff, hset, hequals, hend, and_true, and_assoc, and_self]

theorem fill_suffixed {p : Piece} (h : ¬ rowMark.toList <:+: p.content.toList) (value : String) :
    (p.suffixed rowMark).fill rowMark value = p.suffixed value := by
  cases p with
  | text t => exact congrArg text (Text.replace_of_absent h)
  | parameter name => exact congrArg parameter (fill_rowMark h value)

theorem map_fill_suffixed {ps : List Piece} (h : ∀ p ∈ ps, ¬ rowMark.toList <:+: p.content.toList)
    (value : String) :
    (ps.map (suffixed rowMark)).map (fill rowMark value) = ps.map (suffixed value) := by
  rw [List.map_map]
  exact List.map_congr_left fun p hp => fill_suffixed (h p hp) value

theorem replace_rowMark_append_inj {name r r' : String} {i : Nat}
    (h : Text.replace rowMark (toString i) name ++ r = name ++ r') :
    ¬ rowMark.toList <:+: name.toList ∧ r = r' := by
  obtain ⟨v, hv, hdigit⟩ := Text.head_toString i
  refine Text.replace_append_inj (by decide) ⟨v, hv, fun hmark => ?_⟩ h
  have hbrace : v = '\x7b' := by simpa [rowMark, eq_comm] using hmark
  rw [hbrace] at hdigit
  exact absurd hdigit (by decide)

theorem print_fill_append_inj {p : Piece} {i : Nat} {r r' : String}
    (h : ((p.suffixed rowMark).fill rowMark (toString i)).print ++ r =
      (p.suffixed (toString i)).print ++ r') :
    ¬ rowMark.toList <:+: p.content.toList ∧ r = r' := by
  cases p with
  | text t => exact replace_rowMark_append_inj h
  | parameter name =>
    have hseam : ∀ c ∈ rowMark.toList.head?, c ∉ rowMark.toList.tail := by simp [rowMark]
    have hname : Text.replace rowMark (toString i) name ++ (toString i ++ r) =
        name ++ (toString i ++ r') := by
      simp only [suffixed, fill, print] at h
      rwa [Text.replace_append hseam, Text.replace_self (by decide), String.append_assoc,
        String.append_assoc, String.append_assoc, String.append_assoc, String.append_right_inj] at h
    obtain ⟨habsent, hrest⟩ := replace_rowMark_append_inj hname
    exact ⟨habsent, (String.append_right_inj _).mp hrest⟩

/-- A row that is filled in begins like the row written out only if no piece holds a mark. -/
theorem printAll_fill_append_inj {ps : List Piece} {i : Nat} {r r' : String}
    (h : printAll ((ps.map (suffixed rowMark)).map (fill rowMark (toString i))) ++ r =
      printAll (ps.map (suffixed (toString i))) ++ r') :
    ∀ p ∈ ps, ¬ rowMark.toList <:+: p.content.toList := by
  induction ps with
  | nil => simp
  | cons p ps ih =>
    simp only [List.map_cons, printAll_cons, String.append_assoc] at h
    obtain ⟨habsent, hrest⟩ := print_fill_append_inj h
    exact List.forall_mem_cons.mpr ⟨habsent, ih hrest⟩

/-- One row is enough to tell whether a mark stands in a name. -/
theorem renderRows_eq_iff {ps : List Piece} {rows : Nat} (h : 0 < rows)
    (hopens : ∀ p ∈ ps.map (suffixed rowMark), p.Opens rowMark) :
    renderRows (printAll (ps.map (suffixed rowMark))) rows =
        " ".intercalate ((List.range rows).map fun i => printAll (ps.map (suffixed (toString i)))) ↔
      ∀ p ∈ ps, ¬ rowMark.toList <:+: p.content.toList := by
  rw [← printAll_numberedRows hopens, numberedRows, printAll_between, List.map_map]
  constructor
  · intro heq
    obtain ⟨r, hr⟩ := exists_intercalate_range " "
      (printAll ∘ fun i => (ps.map (suffixed rowMark)).map (fill rowMark (toString i))) h
    obtain ⟨r', hr'⟩ := exists_intercalate_range " "
      (fun i => printAll (ps.map (suffixed (toString i)))) h
    rw [hr, hr'] at heq
    exact printAll_fill_append_inj heq
  · intro habsent
    refine congrArg _ (List.map_congr_left fun i _ => ?_)
    rw [Function.comp_apply, map_fill_suffixed habsent]

theorem printAll_insertRow_suffixed (s : Statements) (suffix : String) :
    printAll ((s.insertRow "").map (suffixed suffix)) = s.insertWith suffix false ++ ";" := by
  rw [← insertRow_eq, insertRow, printAll_append, printAll_insertPieces]
  simp [print]

theorem printAll_updateRow_suffixed (s : Statements) (suffix : String) :
    printAll ((s.updateRow "").map (suffixed suffix)) = s.updateWith suffix ++ ";" := by
  rw [← updateRow_eq, updateRow, printAll_append, printAll_updatePieces]
  simp [print]

/-- Where no name holds a mark, the row numbers alone are filled in. -/
theorem replace_insertRowTemplate {s : Statements}
    (h : ∀ name ∈ s.table :: s.columns, Unmarked .insertMultiple name) (value : String) :
    Text.replace rowMark value s.insertRowTemplate = s.insertWith value false ++ ";" := by
  have hopens := s.insertRow_opens
  have hpieces := (insertRow_unmarked_iff .insertMultiple s).mpr h
  rw [insertRow_eq] at hopens
  rw [← printAll_insertRow, insertRow_eq, replace_printAll (by decide) hopens,
    map_fill_suffixed hpieces, printAll_insertRow_suffixed]

theorem replace_updateRowTemplate {s : Statements}
    (h : ∀ name ∈ s.table :: (s.columns ++ [s.key]), Unmarked .updateMultiple name)
    (value : String) :
    Text.replace rowMark value s.updateRowTemplate = s.updateWith value ++ ";" := by
  have hopens := s.updateRow_opens
  have hpieces := (updateRow_unmarked_iff .updateMultiple s).mpr h
  rw [updateRow_eq] at hopens
  rw [← printAll_updateRow, updateRow_eq, replace_printAll (by decide) hopens,
    map_fill_suffixed hpieces, printAll_updateRow_suffixed]

/-- A chunk of at least one row is rendered from its template as it would be written out exactly
when no name in it holds the template's mark. -/
theorem render_eq_writtenOut_iff (s : Statements) (op : Bulk) {rows : Nat} (h : 0 < rows) :
    s.render op rows = s.writtenOut op rows ↔
      ∀ name ∈ s.table :: s.boundNames op, ¬ (mark op).toList <:+: name.toList := by
  have hkeyed : (∀ name ∈ [s.table, s.key], Unmarked op name) ↔
      Unmarked op s.table ∧ Unmarked op s.key := by simp
  cases op with
  | getMultiple =>
    have hverb : apart .getMultiple "SELECT * FROM " := by decide
    have hnames := (unmarked_keyed_iff hverb s).trans hkeyed.symm
    exact (replace_idsMark_eq_iff (s.head_idList h) _).trans hnames
  | insertMultiple =>
    have hopens := s.insertRow_opens
    rw [insertRow_eq] at hopens
    have hrows := renderRows_eq_iff h hopens
    simp only [printAll_insertRow_suffixed] at hrows
    exact hrows.trans (insertRow_unmarked_iff .insertMultiple s)
  | updateMultiple =>
    have hopens := s.updateRow_opens
    rw [updateRow_eq] at hopens
    have hrows := renderRows_eq_iff h hopens
    simp only [printAll_updateRow_suffixed] at hrows
    exact hrows.trans (updateRow_unmarked_iff .updateMultiple s)
  | deleteMultiple =>
    have hverb : apart .deleteMultiple "DELETE FROM " := by decide
    have hnames := (unmarked_keyed_iff hverb s).trans hkeyed.symm
    exact (replace_idsMark_eq_iff (s.head_idList h) _).trans hnames

/-- Users with a mark in the name of a column. -/
def markedTable : Table :=
  { name := "Users"
    columns := [⟨"Id", "int", true, true⟩, ⟨"Name\x7bi\x7d", "nvarchar", false, false⟩] }

/-- Two users are updated as written out. A column with a mark in its name loses the name. -/
theorem users_updated_as_written :
    0 < 2 ∧
      (ofTable Model.userTable (.ofTable Model.userTable)).render .updateMultiple 2 =
        (ofTable Model.userTable (.ofTable Model.userTable)).writtenOut .updateMultiple 2 ∧
      (ofTable markedTable (.ofTable markedTable)).render .updateMultiple 2 ≠
        (ofTable markedTable (.ofTable markedTable)).writtenOut .updateMultiple 2 := by
  have hrows : 0 < 2 := by decide
  refine ⟨hrows, (render_eq_writtenOut_iff _ _ hrows).mpr (by decide +kernel), fun h => ?_⟩
  have hmark := (render_eq_writtenOut_iff _ _ hrows).mp h
  exact hmark "Name\x7bi\x7d" (by decide +kernel) (by decide +kernel)

end Scaffold.Statements
