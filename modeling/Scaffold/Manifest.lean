import Scaffold.Run
import Scaffold.Settings.Load

/-! Runs that are described in the manifest of a package. -/
namespace Scaffold

/-- The section of a manifest that describes a run. -/
structure Manifest where
  schemaFile : Option String
  includeTables : List String
  excludeTables : List String
  rootNamespace : Option String
  database : Option String
  backend : Option Bool
  client : Option Bool
  outputDir : Option String
  paramBudget : Option Nat
  policy : Option BudgetPolicy

namespace Manifest

def fileName : String := "Cargo.toml"

def optional {α : Type} (es : List (String × Toml)) (key : String) (f : Toml → Option α) :
    Option (Option α) :=
  Settings.entry es key (some <$> f ·) none

def texts : Toml → Option (List String)
  | .array items => items.mapM Conversion.strict.text
  | _ => none

def ofEntries? (es : List (String × Toml)) : Option Manifest := do
  let c := Conversion.strict
  return { schemaFile := ← optional es "schema_file" c.text
           includeTables := ← Settings.entry es "include_tables" texts []
           excludeTables := ← Settings.entry es "exclude_tables" texts []
           rootNamespace := ← optional es "namespace" c.text
           database := ← optional es "database" c.text
           backend := ← optional es "generate_backend" c.flag
           client := ← optional es "generate_client" c.flag
           outputDir := ← optional es "output_dir" c.text
           paramBudget := ← optional es "param_budget" c.number
           policy := ← optional es "budget_policy" c.policy }

/-- The table at the end of a path of keys; one that is absent on the way is no fault. -/
def tableAt? (es : List (String × Toml)) : List String → Option (Option (List (String × Toml)))
  | [] => some (some es)
  | key :: keys =>
    match es.lookup key with
    | none => some none
    | some (.table inner) => tableAt? inner keys
    | some _ => none

def sectionPath : List String := ["package", "metadata", "modelly-codegen"]

def ofText (text : String) : Except SettingsFault Manifest :=
  match (Toml.ofText? text).bind Toml.entries? with
  | none => .error .unreadable
  | some es =>
    match tableAt? es sectionPath with
    | none => .error .unreadable
    | some none => .error .sectionMissing
    | some (some section_) =>
      match ofEntries? section_ with
      | none => .error .unreadable
      | some d => .ok d

/-- The settings of the run. Files are named as seen from the manifest; the build's own folder is
used where no other is given. -/
def settings (d : Manifest) (folder : String) (buildFolder : Option String) :
    Except SettingsFault Settings := do
  let some schemaFile := d.schemaFile | throw .schemaFileMissing
  let outputDir ←
    match d.outputDir, buildFolder with
    | some dir, _ => pure (Path.join folder dir)
    | none, some dir => pure dir
    | none, none => throw .outDirUnset
  let s := Settings.ofSchemaFile (Path.join folder schemaFile)
  let s := if d.includeTables.isEmpty then s else s.including d.includeTables
  let s := if d.excludeTables.isEmpty then s else s.excluding d.excludeTables
  return { s with
    outputDir
    rootNamespace := d.rootNamespace.getD s.rootNamespace
    database := d.database.getD s.database
    backend := d.backend.getD s.backend
    client := d.client.getD s.client
    paramBudget := d.paramBudget.getD s.paramBudget
    policy := d.policy.getD s.policy }

variable {m : Type → Type} [Monad m] [FileStore m]

def folderVariable : String := "CARGO_MANIFEST_DIR"

def buildFolderVariable : String := "OUT_DIR"

def prepare (environment : Environment) : ExceptT Error m (String × Settings) := do
  let some folder := environment.lookup folderVariable | throw (.settings .manifestDirUnset)
  let path := Path.join folder fileName
  let some text ← (FileStore.read? path : m _) | throw .file
  match ofText text >>= (·.settings folder (environment.lookup buildFolderVariable)) with
  | .ok s => return (path, s)
  | .error fault => throw (.settings fault)

/-- The lines that tell a build which files it depends on. -/
def dependencies (path : String) (s : Settings) : List String :=
  [s.schemaFile, path].map ("cargo:rerun-if-changed=" ++ ·)

/-- What is printed before the run, and how the run ends. -/
def run (environment : Environment) : m (List String × Except Error Generated) := do
  match ← (prepare environment).run with
  | .error e => return ([], .error e)
  | .ok (path, s) => return (dependencies path s, ← s.checkedRun.run)

end Manifest

end Scaffold
