import Scaffold.Generation
import Scaffold.Schema.Source

/-! Runs: a schema file is read, and the artifacts of its tables are written. -/
namespace Scaffold

variable {m : Type → Type} [Monad m] [FileStore m]

def TableArtifacts.targets (outputDir : String) (t : TableArtifacts) : List (String × String) :=
  t.artifacts.map fun a => (Path.below outputDir a.path, a.text)

/-- Where the artifacts go, and their texts. -/
def Generated.targets (outputDir : String) (g : Generated) : List (String × String) :=
  g.flatMap (TableArtifacts.targets outputDir)

def writeFile (path text : String) : ExceptT Error m Unit := do
  if !(← (FileStore.write path text : m _)) then throw .file

/-- Writes the artifacts, or only tells where they would go. -/
def writeArtifacts (g : Generated) (outputDir : String) (dryRun : Bool) :
    ExceptT Error m (List String) := do
  let targets := Generated.targets outputDir g
  if !dryRun then
    for (path, text) in targets do writeFile path text
  return targets.map (·.1)

namespace Settings

/-- Nothing is written unless every table is sound. -/
def run (s : Settings) : ExceptT Error m Generated := do
  let ts ← loadSchema s.schemaFile
  let g ← ExceptT.mk (pure (Generation.generateSelected s ts))
  discard (writeArtifacts g s.outputDir s.dryRun)
  return g

def validate (s : Settings) : ExceptT Error m Unit := do
  match s.fault? (← (FileStore.isPresent s.schemaFile : m _)) with
  | some fault => throw (.run fault)
  | none => return

def checkedRun (s : Settings) : ExceptT Error m Generated := do
  s.validate
  s.run

end Settings

end Scaffold
