import Scaffold.Ddl.Script
import Scaffold.Files.Store
import Scaffold.Schema.Document

/-! Schema texts in either format, and schema files. -/
namespace Scaffold

inductive SchemaFormat
  | json
  | ddl
deriving DecidableEq

namespace SchemaFormat

/-- Only the extension of JSON files is looked for, in any ASCII case. -/
def ofPath (p : String) : SchemaFormat :=
  if (Path.extension? p).any (Text.eqIgnoringAsciiCase · "json") then json else ddl

def tables (f : SchemaFormat) (text : String) : Except SchemaTextFault (List Table) :=
  match f with
  | json => (SchemaDocument.parse text).map (·.toTables)
  | ddl =>
    match Ddl.Script.tables? text with
    | some ts => .ok ts
    | none => .error .ddl

end SchemaFormat

/-- The tables of a schema file. -/
def loadSchema {m : Type → Type} [Monad m] [FileStore m] (path : String) :
    ExceptT Error m (List Table) := do
  match ← (FileStore.read? path : m _) with
  | none => throw .file
  | some text =>
    match (SchemaFormat.ofPath path).tables text with
    | .ok ts => return ts
    | .error fault => throw (.schemaText fault)

end Scaffold
