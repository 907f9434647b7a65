import Scaffold.Proofs.Backend.Commands
import Scaffold.Proofs.Backend.Issued
import Scaffold.Proofs.Statement.Marked

/-! The parameters that a command adds, against the markers of the statement that it runs. -/
namespace Scaffold.Backend.Access

open Statements (rowMark param)

/-- The commands that send the values of an item, or the keys of many. -/
inductive Sent
  | insert
  | update
  | chunk (op : Bulk)
deriving DecidableEq

namespace Sent

variable {m : Model} {s : Statements}

def header : Sent → String
  | insert => commandHeader "InsertQuery"
  | update => commandHeader "UpdateQuery"
  | chunk op => commandHeader (chunkQuery op)

/-- What an item sends, as in a bulk operation. -/
def op : Sent → Bulk
  | insert => .insertMultiple
  | update => .updateMultiple
  | chunk op => op

def bindings (m : Model) : Sent → List Binding
  | insert => insertBindings m
  | update => updateBindings m
  | chunk op => rowBindings m op

/-- What stands behind the names of the parameters, row by row. -/
def suffixes (rows : Nat) : Sent → List String
  | insert | update => [""]
  | chunk _ => (List.range rows).map toString

/-- The name of the constant that the statement of a row is made from. -/
def constant : Sent → String
  | insert => "InsertQuery"
  | update => "UpdateQuery"
  | chunk .insertMultiple => "InsertRowTemplate"
  | chunk .updateMultiple => "UpdateRowTemplate"
  | chunk .getMultiple | chunk .deleteMultiple => "IdParamTemplate"

def template (s : Statements) : Sent → String
  | insert => s.insert
  | update => s.update
  | chunk .insertMultiple => s.insertRowTemplate
  | chunk .updateMultiple => s.updateRowTemplate
  | chunk .getMultiple | chunk .deleteMultiple => s.idTemplate

/-- The part of the statement that belongs to a row. In a chunk its number is put in. -/
def statement (s : Statements) (suffix : String) : Sent → String
  | insert => template s insert
  | update => template s update
  | chunk op => Text.replace rowMark suffix (template s (chunk op))

/-- The columns that insert and update write, in order of declaration. -/
def writtenColumns (t : Table) (k : Key) : List String :=
  (t.columns.filter (!k.excludes ·.name)).map (·.name)

/-- The columns whose values make up a row. -/
def columns (t : Table) (k : Key) (c : Sent) : List String :=
  match c.op with
  | .insertMultiple => writtenColumns t k
  | .updateMultiple => writtenColumns t k ++ [k.name]
  | .getMultiple | .deleteMultiple => [k.name]

/-- The steps of the command. -/
def body (m : Model) : Sent → List Step
  | insert => (insertBindings m).map Binding.single ++ .blank :: insertResult m
  | update => (updateBindings m).map Binding.single ++ [.blank, executeCount]
  | chunk op => chunkBody m op

/-- The names that are bound, in the order of the lines. -/
def names (m : Model) (c : Sent) : List String := (c.bindings m).map (·.column)

theorem nodup_headers : ((commands (access m)).map Prod.fst).Nodup := by
  have hqueries : (["GetQuery", "GetAllQuery", "InsertQuery", "UpdateQuery", "DeleteQuery"] ++
      [Bulk.getMultiple, .deleteMultiple, .insertMultiple, .updateMultiple].map
        chunkQuery).Nodup := by
    decide +kernel
  have hheaders := hqueries.map (f := commandHeader) fun _ _ h => commandHeader_inj.mp h
  simpa [commands_access, commands_suppliedMethods] using hheaders

theorem body_mem (c : Sent) : (c.header, c.body m) ∈ commands (access m) := by
  rw [commands_access, commands_suppliedMethods]
  cases c with
  | insert => simp [header, body]
  | update => simp [header, body]
  | chunk op => cases op <;> simp [header, body]

theorem filter_key_of_mem {α : Type} {entries : List (String × α)} {key : String} {x : α}
    (h : (entries.map Prod.fst).Nodup) (hmem : (key, x) ∈ entries) :
    entries.filter (·.1 = key) = [(key, x)] := by
  induction entries with
  | nil => simp at hmem
  | cons e rest ih =>
    obtain ⟨hfirst, hrest⟩ := List.nodup_cons.mp h
    rcases List.mem_cons.mp hmem with rfl | hmem
    · have hnone : rest.filter (·.1 = key) = [] := by
        refine List.filter_eq_nil_iff.mpr fun e he heq => hfirst ?_
        exact List.mem_map.mpr ⟨e, he, by simpa using heq⟩
      simp [hnone]
    · have hne : e.1 ≠ key := fun heq => hfirst (List.mem_map.mpr ⟨(key, x), hmem, heq.symm⟩)
      rw [List.filter_cons_of_neg (by simpa using hne), ih hrest hmem]

/-- The class has one block with the header of the command. -/
theorem filter_header (c : Sent) :
    (Step.allBlocks (access m)).filter (·.1 = c.header) = [(c.header, c.body m)] := by
  have hcommand : commandStart.toList <+: c.header.toList := by
    cases c <;> exact commandHeader_starts _
  have hfilter : (Step.allBlocks (access m)).filter (·.1 = c.header) =
      (commands (access m)).filter (·.1 = c.header) := by
    rw [commands, Step.headed, List.filter_filter]
    refine List.filter_congr fun block _ => ?_
    by_cases h : block.1 = c.header <;> simp [h, hcommand]
  rw [hfilter, filter_key_of_mem nodup_headers c.body_mem]

/-- In any run of the command its rows add what they bind, one after the other. -/
theorem adds_body_iff (c : Sent) (rows : Nat) (added : List String) :
    Adds rows (c.body m) added ↔
      added = (c.suffixes rows).flatMap fun suffix => (c.names m).map (param · suffix) := by
  have hnames : ∀ suffix, (c.names m).map (param · suffix) =
      (c.bindings m).map fun b => b.parameter ++ suffix := fun _ => List.map_map
  have hsingle : ∀ bs : List Binding,
      ([""].flatMap fun suffix => bs.map fun b => b.parameter ++ suffix) =
        bs.map Binding.parameter ++ [] := by
    intro bs
    simp
  have hadds : Adds rows (c.body m)
      ((c.suffixes rows).flatMap fun suffix => (c.names m).map (param · suffix)) := by
    rw [List.flatMap_congr fun suffix _ => hnames suffix]
    cases c with
    | insert =>
      have hresult : Adds rows (insertResult m) [] := .insertResult
      have hrun := hresult.skip_blank.singles (insertBindings m)
      rwa [← hsingle] at hrun
    | update =>
      have hcount : Adds rows [executeCount] [] := .executeCount
      have hrun := hcount.skip_blank.singles (updateBindings m)
      rwa [← hsingle] at hrun
    | chunk op =>
      have hrun : Adds rows (chunkBody m op) _ := .chunkBody op
      rwa [rowParameters, ← List.flatMap_map (f := toString)
        (g := fun suffix => (rowBindings m op).map fun b => b.parameter ++ suffix)] at hrun
  exact ⟨fun h => h.unique hadds, fun h => h ▸ hadds⟩

theorem query?_constant (c : Sent) : query? m c.constant = some (c.template m.statements) := by
  refine query?_of_mem ?_
  cases c with
  | insert => simp [queries, constant, template]
  | update => simp [queries, constant, template]
  | chunk op => cases op <;> simp [queries, constant, template]

theorem at_not_mem_suffix {c : Sent} {rows : Nat} {suffix : String}
    (h : suffix ∈ c.suffixes rows) : '@' ∉ suffix.toList := by
  cases c with
  | insert => simp_all [suffixes]
  | update => simp_all [suffixes]
  | chunk op =>
    obtain ⟨i, -, rfl⟩ := List.mem_map.mp h
    exact Statements.at_not_mem_toString i

/-- The markers of a row's statement are the names that its operation binds. -/
theorem marked_statement (hat : s.Free '@') (hmark : s.Free '\x7b') (c : Sent) {rows : Nat}
    {suffix : String} (h : suffix ∈ c.suffixes rows) :
    Marked (c.statement s suffix) ((s.boundNames c.op).map (param · suffix)) := by
  have hsuffix := at_not_mem_suffix h
  have hclose : ∀ x ∈ (";" : String).toList.head?, x ∈ closing := by simp [closing]
  have hid : Marked (Text.replace rowMark suffix s.idTemplate) [param s.key suffix] := by
    rw [hmark.replace_idTemplate]
    exact hat.marked_param hsuffix
  cases c with
  | insert =>
    obtain rfl := List.mem_singleton.mp h
    exact hat.marked_insertWith hsuffix s.returnsKey
  | update =>
    obtain rfl := List.mem_singleton.mp h
    exact hat.marked_updateWith hsuffix
  | chunk op =>
    cases op with
    | getMultiple => exact hid
    | insertMultiple =>
      change Marked (Text.replace rowMark suffix s.insertRowTemplate) _
      rw [Statements.replace_insertRowTemplate (hmark.unmarked .insertMultiple)]
      exact (hat.marked_insertWith hsuffix false).append (by simp) hclose
    | updateMultiple =>
      change Marked (Text.replace rowMark suffix s.updateRowTemplate) _
      rw [Statements.replace_updateRowTemplate (hmark.unmarked .updateMultiple)]
      exact (hat.marked_updateWith hsuffix).append (by simp) hclose
    | deleteMultiple => exact hid

variable {t : Table} {database : String} {b : ParamBudget}

theorem boundNames_eq (hm : Model.build t database b = .ok m) (c : Sent) :
    m.statements.boundNames c.op = c.columns t m.key := by
  rw [Model.statements_of_build hm]
  unfold columns
  cases c.op <;> rfl

theorem written_names (hm : Model.build t database b = .ok m) :
    (writtenBindings m).map (·.column) = writtenColumns t m.key := by
  rw [writtenBindings, Model.written, Model.columns_of_build hm, List.filter_map, List.map_map,
    List.map_map]
  rfl

/-- The key is bound last, or first by the command for a single item. -/
theorem names_eq (hm : Model.build t database b = .ok m) (c : Sent) :
    c.names m = c.columns t m.key ∨
      c.op = .updateMultiple ∧ c.names m = m.key.name :: writtenColumns t m.key := by
  have hwritten := written_names hm
  cases c with
  | insert => exact .inl hwritten
  | update => exact .inr ⟨rfl, congrArg (m.key.name :: ·) hwritten⟩
  | chunk op =>
    left
    cases op with
    | getMultiple | deleteMultiple => rfl
    | insertMultiple => exact hwritten
    | updateMultiple => exact List.map_append.trans (congrArg (· ++ [m.key.name]) hwritten)

theorem names_perm (hm : Model.build t database b = .ok m) (c : Sent) :
    (c.names m).Perm (c.columns t m.key) := by
  obtain h | ⟨hop, h⟩ := names_eq hm c
  · exact .of_eq h
  · rw [h, columns, hop]
    exact (List.perm_append_singleton _ _).symm

theorem filter_names (hm : Model.build t database b = .ok m) (c : Sent) :
    (c.names m).filter (· ≠ m.key.name) = (c.columns t m.key).filter (· ≠ m.key.name) := by
  obtain h | ⟨hop, h⟩ := names_eq hm c
  · rw [h]
  · rw [h, columns, hop]
    simp

end Sent

/-- For every row, a command adds just the markers of the statement that the row runs. -/
theorem bound_values_match_markers (hm : Model.build t database b = .ok m)
    (hnames : ∀ name ∈ t.name :: m.key.name :: t.columns.map (·.name),
      '@' ∉ name.toList ∧ '\x7b' ∉ name.toList) (c : Sent) (rows : Nat) :
    ((Step.allBlocks (access m)).filter (·.1 = c.header) = [(c.header, c.body m)] ∧
      ∀ added, Adds rows (c.body m) added ↔
        added = (c.suffixes rows).flatMap fun suffix => (c.names m).map (param · suffix)) ∧
    (query? m c.constant = some (c.template m.statements) ∧
      ∀ suffix ∈ c.suffixes rows,
        Marked (c.statement m.statements suffix) ((c.columns t m.key).map (param · suffix))) ∧
    (c.names m).Perm (c.columns t m.key) ∧
    (c.names m).filter (· ≠ m.key.name) = (c.columns t m.key).filter (· ≠ m.key.name) ∧
    (c.columns t m.key).length = ParamBudget.boundParams c.op m.statements.counts := by
  have hat := Model.free_of_names hm fun name hname => (hnames name hname).1
  have hmark := Model.free_of_names hm fun name hname => (hnames name hname).2
  refine ⟨⟨c.filter_header, c.adds_body_iff rows⟩, ⟨c.query?_constant, fun suffix hsuffix => ?_⟩,
    c.names_perm hm, c.filter_names hm, ?_⟩
  · rw [← c.boundNames_eq hm]
    exact c.marked_statement hat hmark hsuffix
  · rw [← c.boundNames_eq hm, Statements.length_boundNames]

/-- Row by row, the columns come before the key, as they do in the statements of the rows. -/
theorem update_of_two_users :
    ∃ m, Model.build Model.userTable "Main" {} = .ok m ∧
      (∀ name ∈ Model.userTable.name :: m.key.name :: Model.userTable.columns.map (·.name),
        '@' ∉ name.toList ∧ '\x7b' ∉ name.toList) ∧
      Adds 2 ((Sent.chunk .updateMultiple).body m)
        ["@Name0", "@Email0", "@Id0", "@Name1", "@Email1", "@Id1"] ∧
      Marked (Text.replace rowMark "1" m.statements.updateRowTemplate)
        ["@Name1", "@Email1", "@Id1"] := by
  let m := Model.derived Model.userTable "Main" {}
  have hnames : ∀ name ∈ Model.userTable.name :: m.key.name ::
      Model.userTable.columns.map (·.name), '@' ∉ name.toList ∧ '\x7b' ∉ name.toList := by
    decide +kernel
  obtain ⟨⟨-, hadds⟩, ⟨-, hmarked⟩, -⟩ :=
    bound_values_match_markers (Model.build_userTable "Main" {}) hnames (.chunk .updateMultiple) 2
  have hsecond := hmarked "1" (by decide +kernel)
  have hmarkers : ((Sent.chunk .updateMultiple).columns Model.userTable m.key).map (param · "1") =
      ["@Name1", "@Email1", "@Id1"] := by decide +kernel
  rw [hmarkers] at hsecond
  exact ⟨m, Model.build_userTable "Main" {}, hnames, (hadds _).mpr (by decide +kernel), hsecond⟩

end Scaffold.Backend.Access
