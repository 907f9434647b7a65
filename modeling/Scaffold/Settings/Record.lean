import Scaffold.Decimal.Numeral
import Scaffold.Settings.Basic
import Scaffold.Text.Case
import Scaffold.Toml.Basic

/-! Settings from tables of keys and values. -/
namespace Scaffold

/-- How values are taken for what a setting needs. -/
structure Conversion where
  text : Toml → Option String
  flag : Toml → Option Bool
  number : Toml → Option Nat
  policy : Toml → Option BudgetPolicy

namespace Conversion

/-- Every value has the type of its setting. -/
def strict : Conversion where
  text
    | .string s => some s
    | _ => none
  flag
    | .boolean b => some b
    | _ => none
  number
    | .integer n => if 0 ≤ n then some n.toNat else none
    | _ => none
  policy
    | .string s => BudgetPolicy.ofWord? s
    | _ => none

def trueWords : List String := ["true", "on", "yes"]

def falseWords : List String := ["false", "off", "no"]

def printed : Toml → Option String
  | .string s => some s
  | .integer n => some (toString n)
  | .float x => some x.text
  | .boolean b => some (if b then "true" else "false")
  | .dateTime t => some t
  | _ => none

def truth : Toml → Option Bool
  | .boolean b => some b
  | .integer n => some (n != 0)
  | .float x => some !x.isZero
  | .string s =>
    let word := Text.lower s
    if ("1" :: trueWords).contains word then some true
    else if ("0" :: falseWords).contains word then some false
    else none
  | _ => none

def count : Toml → Option Nat
  | .integer n => if 0 ≤ n then some n.toNat else none
  | .float x => some (x.toNat (Text.unsignedBound - 1))
  | .boolean b => some b.toNat
  | .string s =>
    let word := Text.lower s
    if trueWords.contains word then some 1
    else if falseWords.contains word then some 0
    else Numeral.natural? s
  | _ => none

/-- A table with one entry stands for its key. -/
def variant : Toml → Option BudgetPolicy
  | .string s => BudgetPolicy.ofWord? s
  | .table [(key, _)] => BudgetPolicy.ofWord? key
  | _ => none

/-- Values are printed and read as the setting needs it. -/
def lenient : Conversion := ⟨printed, truth, count, variant⟩

end Conversion

namespace Settings

/-- The converted value of a key, or the default if the key is absent. -/
def entry {α : Type} (es : List (String × Toml)) (key : String) (f : Toml → Option α)
    (default : α) : Option α :=
  match es.lookup key with
  | some v => f v
  | none => some default

/-- Keys that name no setting do not matter. -/
def ofEntries? (c : Conversion) (es : List (String × Toml)) : Option Settings := do
  let d : Settings := {}
  return { schemaFile := ← entry es "schema_file" c.text d.schemaFile
           includeTables := ← entry es "include_tables" c.text d.includeTables
           excludeTables := ← entry es "exclude_tables" c.text d.excludeTables
           rootNamespace := ← entry es "namespace" c.text d.rootNamespace
           database := ← entry es "database" c.text d.database
           backend := ← entry es "generate_backend" c.flag d.backend
           client := ← entry es "generate_client" c.flag d.client
           outputDir := ← entry es "output_dir" c.text d.outputDir
           paramBudget := ← entry es "param_budget" c.number d.paramBudget
           divisor := ← entry es "transactional_divisor" c.number d.divisor
           policy := ← entry es "budget_policy" c.policy d.policy
           parallel := ← entry es "parallel" c.flag d.parallel
           dryRun := ← entry es "dry_run" c.flag d.dryRun
           logLevel := ← entry es "log_level" (fun v => some <$> c.text v) d.logLevel }

end Settings

end Scaffold
