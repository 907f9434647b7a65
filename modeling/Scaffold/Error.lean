import Scaffold.Schema.Table

/-! Why a run fails, and what it then says. -/
namespace Scaffold

/-- Why a schema text cannot be read: it breaks the grammar of its format, or it is JSON of
another shape than a schema. -/
inductive SchemaTextFault
  | json
  | shape
  | ddl
deriving DecidableEq

inductive SettingsFault
  | unreadable
  | manifestDirUnset
  | outDirUnset
  | sectionMissing
  | schemaFileMissing
deriving DecidableEq

inductive RunFault
  | duplicateTable (name : String)
  | schemaFileRequired
  | schemaFileNotFound (path : String)
  | nothingToGenerate
  | zeroBudget
  | zeroDivisor
  | blankNamespace
  | blankDatabase
deriving DecidableEq

inductive Error
  | table (fault : TableFault)
  | schemaText (fault : SchemaTextFault)
  | settings (fault : SettingsFault)
  | run (fault : RunFault)
  | file
deriving DecidableEq

def SchemaTextFault.message : SchemaTextFault → String
  | json => "malformed JSON"
  | shape => "data did not match any variant of untagged enum SchemaDocument"
  | ddl => "malformed DDL"

def SettingsFault.message : SettingsFault → String
  | unreadable => "malformed settings"
  | manifestDirUnset => "CARGO_MANIFEST_DIR not set - are you running from build.rs?"
  | outDirUnset => "OUT_DIR not set - are you running from build.rs?"
  | sectionMissing => "Missing [package.metadata.modelly-codegen] section in Cargo.toml"
  | schemaFileMissing => "schema_file is required in [package.metadata.modelly-codegen]"

def RunFault.message : RunFault → String
  | duplicateTable name => s!"table `{name}` is defined more than once"
  | schemaFileRequired => "schema_file is required"
  | schemaFileNotFound path => s!"Schema file not found: {path}"
  | nothingToGenerate => "at least one of generate_backend and generate_client must be true"
  | zeroBudget => "param_budget must be at least 1"
  | zeroDivisor => "transactional_divisor must be at least 1"
  | blankNamespace => "namespace must not be empty"
  | blankDatabase => "database must not be empty"

def Error.message : Error → String
  | table fault => "Invalid table schema: " ++ fault.message
  | schemaText fault => "Failed to parse schema: " ++ fault.message
  | settings fault => "Configuration error: " ++ fault.message
  | run fault => "Validation error: " ++ fault.message
  | file => "IO error: a file cannot be read or written"

end Scaffold
