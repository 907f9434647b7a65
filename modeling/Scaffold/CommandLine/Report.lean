import Scaffold.Generation
import Scaffold.Path

/-! What commands print about a schema, line by line. -/
namespace Scaffold.CommandLine

def columnLine (c : ColumnModel) : String :=
  let key := if c.isKey then " KEY" else ""
  let identity := if c.identity then " IDENTITY" else ""
  s!"    - {c.name} {c.sourceType}{key}{identity} -> C# {c.backend.text}, TS {c.client.text}, " ++
    s!"input {c.input.text}"

def chunkLine (m : Model) (v : Connection) : String :=
  let size := m.chunkSize v
  s!"  Chunk sizes ({v.text}): get={size .getMultiple}, insert={size .insertMultiple}, " ++
    s!"update={size .updateMultiple}, delete={size .deleteMultiple}"

def keyLine (k : Key) : String :=
  let suffix := if k.assumed then " (assumed)" else ""
  s!"  Primary Key: {k.name}{suffix}"

def warningLines (ws : List Warning) : List String :=
  if ws.isEmpty then [] else "  Warnings:" :: ws.map fun w => "    - " ++ w.text

def modelLines (m : Model) : List String :=
  [s!"Table: {m.names.table} (entity {m.names.entity})",
    s!"  Namespace: {m.names.entitiesNamespace}", "  Columns:"] ++
  m.columns.map columnLine ++ [keyLine m.key] ++ Connection.all.map (chunkLine m) ++
  warningLines m.warnings ++ [""]

/-- The report goes up to the first table with a fault. -/
def tableLines (s : Settings) : List Table → List String × Option TableFault
  | [] => ([], none)
  | t :: ts =>
    match Generation.model s t with
    | .error fault => ([], some fault)
    | .ok m =>
      let (rest, fault?) := tableLines s ts
      (modelLines m ++ rest, fault?)

def inspection (s : Settings) (ts : List Table) : List String × Option TableFault :=
  let (lines, fault?) := tableLines s ts
  ([s!"Parsed {ts.length} tables:", ""] ++ lines, fault?)

def planLines (m : Model) (v : Connection) (items : Nat) (op : Bulk) : List String :=
  let statements := m.statements.planned m.budget op v items
  [s!"{op.text} (chunk size {m.chunkSize v op}): {statements.length} statement(s)"] ++
  (statements.map fun (c, sql) => s!"  {c.text} {sql}") ++ [""]

def planReport (m : Model) (v : Connection) (items : Nat) : List String :=
  [s!"Table {m.names.table}: {items} item(s), budget {m.budget.budget} " ++
    s!"({m.budget.policy.text} policy, {v.text})", ""] ++
  Bulk.all.flatMap (planLines m v items)

/-- The files that a dry run would write. -/
def listing (s : Settings) (g : Generated) : List String :=
  "Dry run mode - would generate:" ::
    (g.flatMap TableArtifacts.paths).map fun p => "  " ++ Path.join s.outputDir p

end Scaffold.CommandLine
