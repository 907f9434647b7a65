import Scaffold.Proofs.Statement.Pieces
import Scaffold.Proofs.Text.Numbered

/-! The rows and chunks of bulk statements in pieces, and their printing. -/
namespace Scaffold.Statements

open Piece

def insertPieces (s : Statements) (suffix : String) (output : Bool) : List Piece :=
  let returned := if output then " OUTPUT INSERTED." ++ s.quotedKey else ""
  if s.columns.isEmpty then
    [text ("INSERT INTO " ++ s.quotedTable ++ returned ++ " DEFAULT VALUES")]
  else
    text ("INSERT INTO " ++ s.quotedTable ++ " (" ++ s.columnList ++ ")" ++ returned ++
        " VALUES (") ::
      between "," (s.columns.map fun c => [parameter (c ++ suffix)]) ++ [text ")"]

def updatePieces (s : Statements) (suffix : String) : List Piece :=
  text ("UPDATE " ++ s.quotedTable ++ " SET ") ::
    between ", " (s.columns.map fun c => [text (quoteName c ++ " = "), parameter (c ++ suffix)]) ++
    [text (" WHERE " ++ s.quotedKey ++ " = "), parameter (s.key ++ suffix)]

/-- A row of a chunk with the given suffix on each parameter. Only the written columns and, in
an update, the key are bound. -/
def insertRow (s : Statements) (suffix : String) : List Piece :=
  s.insertPieces suffix false ++ [text ";"]

def updateRow (s : Statements) (suffix : String) : List Piece :=
  s.updatePieces suffix ++ [text ";"]

/-- Copies of a row, each with its number filled in. -/
def numberedRows (row : List Piece) (rows : Nat) : List Piece :=
  between " " ((List.range rows).map fun i => row.map (fill rowMark (toString i)))

/-- A statement on so many keys, of which the mark of the list may also be part of a name. -/
def keyedPieces (s : Statements) (verb : String) (rows : Nat) : List Piece :=
  text (Text.replace idsMark (s.idList rows)
      (verb ++ s.quotedTable ++ " WHERE " ++ s.quotedKey ++ " IN (")) ::
    between "," ((List.range rows).map fun i => [parameter (s.key ++ toString i)]) ++ [text ")"]

def chunkPieces (s : Statements) (op : Bulk) (rows : Nat) : List Piece :=
  match op with
  | .getMultiple => s.keyedPieces "SELECT * FROM " rows
  | .insertMultiple => numberedRows (s.insertRow rowMark) rows
  | .updateMultiple => numberedRows (s.updateRow rowMark) rows
  | .deleteMultiple => s.keyedPieces "DELETE FROM " rows

/-- The names that each row of a chunk binds, before they are numbered. -/
def boundNames (s : Statements) : Bulk → List String
  | .getMultiple | .deleteMultiple => [s.key]
  | .insertMultiple => s.columns
  | .updateMultiple => s.columns ++ [s.key]

theorem length_boundNames (s : Statements) (op : Bulk) :
    (s.boundNames op).length = ParamBudget.boundParams op s.counts := by
  cases op <;> simp [boundNames, ParamBudget.boundParams, counts, ColumnCounts.of]

theorem mem_boundNames {s : Statements} {op : Bulk} {name : String}
    (h : name ∈ s.boundNames op) : name ∈ s.columns ∨ name = s.key := by
  cases op <;> simp only [boundNames, List.mem_append, List.mem_singleton] at h
  case insertMultiple => exact .inl h
  case updateMultiple => exact h
  all_goals exact .inr h

theorem mem_insertRow {s : Statements} {suffix : String} {p : Piece}
    (h : p ∈ s.insertRow suffix) :
    p = text ("INSERT INTO " ++ s.quotedTable ++ " DEFAULT VALUES") ∨
      p = text ("INSERT INTO " ++ s.quotedTable ++ " (" ++ s.columnList ++ ")" ++ " VALUES (") ∨
      p ∈ [text ",", text ")", text ";"] ∨ ∃ c ∈ s.columns, p = parameter (c ++ suffix) := by
  rw [insertRow, List.mem_append] at h
  rcases h with h | h
  · unfold insertPieces at h
    simp only [Bool.false_eq_true, if_false, String.append_empty] at h
    split at h
    · exact .inl (List.mem_singleton.mp h)
    · rw [List.mem_append, List.mem_cons] at h
      rcases h with (rfl | h) | h
      · exact .inr (.inl rfl)
      · obtain rfl | ⟨ps, hps, hp⟩ := mem_between h
        · simp
        · obtain ⟨c, hc, rfl⟩ := List.mem_map.mp hps
          exact .inr (.inr (.inr ⟨c, hc, List.mem_singleton.mp hp⟩))
      · simp_all
  · simp_all

theorem mem_updateRow {s : Statements} {suffix : String} {p : Piece}
    (h : p ∈ s.updateRow suffix) :
    p = text ("UPDATE " ++ s.quotedTable ++ " SET ") ∨
      p = text (" WHERE " ++ s.quotedKey ++ " = ") ∨ p ∈ [text ", ", text ";"] ∨
      (∃ c ∈ s.columns, p = text (quoteName c ++ " = ")) ∨
      ∃ c ∈ s.columns ++ [s.key], p = parameter (c ++ suffix) := by
  rw [updateRow, updatePieces, List.mem_append, List.mem_append, List.mem_cons] at h
  rcases h with ((rfl | h) | h) | h
  · exact .inl rfl
  · obtain rfl | ⟨ps, hps, hp⟩ := mem_between h
    · simp
    · obtain ⟨c, hc, rfl⟩ := List.mem_map.mp hps
      rcases List.mem_pair.mp hp with rfl | rfl
      · exact .inr (.inr (.inr (.inl ⟨c, hc, rfl⟩)))
      · exact .inr (.inr (.inr (.inr ⟨c, by simp [hc], rfl⟩)))
  · rcases List.mem_pair.mp h with rfl | rfl
    · exact .inr (.inl rfl)
    · exact .inr (.inr (.inr (.inr ⟨s.key, by simp, rfl⟩)))
  · simp_all

theorem mem_keyedPieces {s : Statements} {verb : String} {rows : Nat} {p : Piece}
    (h : p ∈ s.keyedPieces verb rows) :
    p = text (Text.replace idsMark (s.idList rows)
        (verb ++ s.quotedTable ++ " WHERE " ++ s.quotedKey ++ " IN (")) ∨
      p ∈ [text ",", text ")"] ∨ ∃ i < rows, p = parameter (s.key ++ toString i) := by
  rw [keyedPieces, List.mem_append, List.mem_cons] at h
  rcases h with (rfl | h) | h
  · exact .inl rfl
  · obtain rfl | ⟨ps, hps, hp⟩ := mem_between h
    · simp
    · obtain ⟨i, hi, rfl⟩ := List.mem_map.mp hps
      exact .inr (.inr ⟨i, List.mem_range.mp hi, List.mem_singleton.mp hp⟩)
  · simp_all

theorem printAll_insertPieces (s : Statements) (suffix : String) (output : Bool) :
    printAll (s.insertPieces suffix output) = s.insertWith suffix output := by
  unfold insertPieces insertWith
  dsimp only
  split
  · simp [print]
  · rw [printAll_append, printAll_cons, printAll_between, List.map_map]
    simp [print, valueList, param, Function.comp_def, String.append_assoc]

theorem printAll_updatePieces (s : Statements) (suffix : String) :
    printAll (s.updatePieces suffix) = s.updateWith suffix := by
  unfold updatePieces updateWith
  rw [printAll_append, printAll_cons, printAll_between, List.map_map]
  simp [print, setList, param, Function.comp_def, String.append_assoc]

theorem printAll_insertRow (s : Statements) :
    printAll (s.insertRow rowMark) = s.insertRowTemplate := by
  rw [insertRow, printAll_append, printAll_insertPieces]
  simp [print, insertRowTemplate]

theorem printAll_updateRow (s : Statements) :
    printAll (s.updateRow rowMark) = s.updateRowTemplate := by
  rw [updateRow, printAll_append, printAll_updatePieces]
  simp [print, updateRowTemplate]

theorem insertRow_opens (s : Statements) : ∀ p ∈ s.insertRow rowMark, p.Opens rowMark := by
  intro p hp
  obtain rfl | rfl | hp | ⟨c, -, rfl⟩ := mem_insertRow hp
  · simp [Opens, print, rowMark]
  · simp [Opens, print, rowMark]
  · simp only [List.mem_cons, List.not_mem_nil, or_false] at hp
    rcases hp with rfl | rfl | rfl <;> simp [Opens, print, rowMark]
  · exact opens_parameter (by decide) _

theorem updateRow_opens (s : Statements) : ∀ p ∈ s.updateRow rowMark, p.Opens rowMark := by
  intro p hp
  obtain rfl | rfl | hp | ⟨c, -, rfl⟩ | ⟨c, -, rfl⟩ := mem_updateRow hp
  · simp [Opens, print, rowMark]
  · simp [Opens, print, rowMark]
  · simp only [List.mem_cons, List.not_mem_nil, or_false] at hp
    rcases hp with rfl | rfl <;> simp [Opens, print, rowMark]
  · simp [Opens, print, rowMark, quoteName]
  · exact opens_parameter (by decide) _

theorem printAll_numberedRows {row : List Piece} (h : ∀ p ∈ row, p.Opens rowMark) (rows : Nat) :
    printAll (numberedRows row rows) = renderRows (printAll row) rows := by
  have hrow : ∀ i : Nat, printAll (row.map (fill rowMark (toString i))) =
      Text.replace rowMark (toString i) (printAll row) := fun i =>
    (replace_printAll (by decide) h).symm
  rw [numberedRows, renderRows, printAll_between, List.map_map]
  simp only [Function.comp_def, hrow]

theorem replace_idsMark_append (ids front : String) :
    Text.replace idsMark ids (front ++ idsMark ++ ")") =
      Text.replace idsMark ids front ++ ids ++ ")" := by
  have hclose : Text.replace idsMark ids ")" = ")" := Text.replace_of_absent (by decide)
  have hbehind : ∀ c ∈ (")" : String).toList.head?, c ∉ idsMark.toList.tail := by simp [idsMark]
  have hbefore : ∀ c ∈ idsMark.toList.head?, c ∉ idsMark.toList.tail := by simp [idsMark]
  rw [Text.replace_append hbehind, Text.replace_append hbefore, Text.replace_self (by decide),
    hclose]

theorem printAll_keyedPieces (s : Statements) (verb : String) (rows : Nat) :
    printAll (s.keyedPieces verb rows) =
      Text.replace idsMark (s.idList rows)
        (verb ++ s.quotedTable ++ " WHERE " ++ s.quotedKey ++ " IN (" ++ idsMark ++ ")") := by
  have hlist : printAll (between "," ((List.range rows).map fun i =>
      [parameter (s.key ++ toString i)])) = s.idList rows := by
    rw [printAll_between, List.map_map]
    simp [print, idList, param, Function.comp_def, String.append_assoc]
  rw [replace_idsMark_append, keyedPieces, printAll_append, printAll_cons, hlist]
  simp [print]

/-- The pieces of a chunk print as the chunk, whatever the names are. -/
theorem printAll_chunkPieces (s : Statements) (op : Bulk) (rows : Nat) :
    printAll (s.chunkPieces op rows) = s.render op rows := by
  cases op with
  | getMultiple => exact s.printAll_keyedPieces "SELECT * FROM " rows
  | insertMultiple =>
    rw [chunkPieces, printAll_numberedRows s.insertRow_opens, printAll_insertRow, render]
  | updateMultiple =>
    rw [chunkPieces, printAll_numberedRows s.updateRow_opens, printAll_updateRow, render]
  | deleteMultiple => exact s.printAll_keyedPieces "DELETE FROM " rows

theorem fill_rowMark {c : String} (h : ¬ rowMark.toList <:+: c.toList) (value : String) :
    Text.replace rowMark value (c ++ rowMark) = c ++ value := by
  have hbefore : ∀ c ∈ rowMark.toList.head?, c ∉ rowMark.toList.tail := by simp [rowMark]
  rw [Text.replace_append hbefore, Text.replace_of_absent h, Text.replace_self (by decide)]

theorem parameters_map_fill (ps : List Piece) (mark value : String) :
    parameters (ps.map (fill mark value)) = (parameters ps).map (Text.replace mark value) := by
  induction ps with
  | nil => rfl
  | cons p ps ih => cases p <;> simp [fill, ih]

theorem parameters_insertPieces (s : Statements) (suffix : String) (output : Bool) :
    parameters (s.insertPieces suffix output) = s.columns.map (· ++ suffix) := by
  have hcolumns := parameters_between_map "," (g := fun c => [parameter (c ++ suffix)])
    (fun _ => rfl) s.columns
  unfold insertPieces
  dsimp only
  split
  · simp_all
  · simp [hcolumns]

theorem parameters_updatePieces (s : Statements) (suffix : String) :
    parameters (s.updatePieces suffix) = (s.columns ++ [s.key]).map (· ++ suffix) := by
  have hcolumns := parameters_between_map ", "
    (g := fun c => [text (quoteName c ++ " = "), parameter (c ++ suffix)]) (fun _ => rfl) s.columns
  simp [updatePieces, hcolumns]

theorem parameters_insertRow (s : Statements) (suffix : String) :
    parameters (s.insertRow suffix) = s.columns.map (· ++ suffix) := by
  simp [insertRow, parameters_insertPieces]

theorem parameters_updateRow (s : Statements) (suffix : String) :
    parameters (s.updateRow suffix) = (s.columns ++ [s.key]).map (· ++ suffix) := by
  simp [updateRow, parameters_updatePieces]

theorem parameters_numberedRows {row : List Piece} {names : List String} (rows : Nat)
    (hrow : parameters row = names.map (· ++ rowMark))
    (h : ∀ c ∈ names, ¬ rowMark.toList <:+: c.toList) :
    parameters (numberedRows row rows) = Text.numbered names rows := by
  have hfill : ∀ i : Nat, parameters (row.map (fill rowMark (toString i))) =
      names.map (· ++ toString i) := by
    intro i
    rw [parameters_map_fill, hrow, List.map_map]
    exact List.map_congr_left fun c hc => fill_rowMark (h c hc) _
  rw [numberedRows, parameters_between, List.flatMap_map, Text.numbered]
  simp only [hfill]

/-- Row by row, a chunk binds each name with the row's number. -/
theorem parameters_chunkPieces {s : Statements} {op : Bulk} (rows : Nat)
    (h : ∀ c ∈ s.boundNames op, ¬ rowMark.toList <:+: c.toList) :
    parameters (s.chunkPieces op rows) = Text.numbered (s.boundNames op) rows := by
  have hkeyed : ∀ verb, parameters (s.keyedPieces verb rows) = Text.numbered [s.key] rows := by
    intro verb
    simp [keyedPieces, parameters_between, List.flatMap_map, Text.numbered]
  cases op with
  | getMultiple => exact hkeyed _
  | insertMultiple => exact parameters_numberedRows rows (s.parameters_insertRow rowMark) h
  | updateMultiple => exact parameters_numberedRows rows (s.parameters_updateRow rowMark) h
  | deleteMultiple => exact hkeyed _

end Scaffold.Statements
