import Scaffold.Batch.Budget
import Scaffold.Error
import Scaffold.Text.Blank

/-! What a run is told beside the schema. -/
namespace Scaffold

structure Settings where
  schemaFile : String := ""
  /-- Names with commas between, or a star for every table. -/
  includeTables : String := "*"
  excludeTables : String := ""
  rootNamespace : String := "Modelly"
  database : String := "Main"
  backend : Bool := true
  client : Bool := true
  outputDir : String := "./generated"
  paramBudget : Nat := 1000
  divisor : Nat := 4
  policy : BudgetPolicy := .compatible
  parallel : Bool := true
  dryRun : Bool := false
  logLevel : Option String := none
deriving DecidableEq

namespace Settings

def budget (s : Settings) : ParamBudget := ⟨s.paramBudget, s.divisor, s.policy⟩

def ofSchemaFile (path : String) : Settings := { schemaFile := path }

def including (s : Settings) (names : List String) : Settings :=
  { s with includeTables := ",".intercalate names }

def excluding (s : Settings) (names : List String) : Settings :=
  { s with excludeTables := ",".intercalate names }

def backendOnly (s : Settings) : Settings := { s with client := false }

def clientOnly (s : Settings) : Settings := { s with backend := false }

/-- The first thing wrong with the settings, given whether there is a schema file. -/
def fault? (s : Settings) (schemaFilePresent : Bool) : Option RunFault :=
  if s.schemaFile.isEmpty then some .schemaFileRequired
  else if !schemaFilePresent then some (.schemaFileNotFound s.schemaFile)
  else if !s.backend && !s.client then some .nothingToGenerate
  else if s.paramBudget = 0 then some .zeroBudget
  else if s.divisor = 0 then some .zeroDivisor
  else if Text.allBlank s.rootNamespace then some .blankNamespace
  else if Text.allBlank s.database then some .blankDatabase
  else none

end Settings

end Scaffold
