import Scaffold.CommandLine.Arguments
import Scaffold.CommandLine.Report
import Scaffold.Run
import Scaffold.Settings.Load

/-! Carrying out a command line. -/
namespace Scaffold.CommandLine

inductive Failure
  | run (e : Error)
  | tableNotFound (name schemaFile : String)
deriving DecidableEq

def Failure.message : Failure → String
  | run e => e.message
  | tableNotFound name schemaFile => s!"table `{name}` not found in {schemaFile}"

/-- What has been printed stays printed when a failure follows. -/
inductive Outcome
  | usage
  | finished (lines : List String) (failure : Option Failure)

namespace Outcome

def exitCode : Outcome → Nat
  | usage => 2
  | finished _ none => 0
  | finished _ (some _) => 1

def text (lines : List String) : String := String.join (lines.map (· ++ "\n"))

end Outcome

def versionLine : String := "modelly-codegen 0.1.0"

/-- Options override settings. -/
def override (schema output : Option String) (dryRun : Bool) (s : Settings) : Settings :=
  { s with
    schemaFile := schema.getD s.schemaFile
    outputDir := output.getD s.outputDir
    dryRun := s.dryRun || dryRun }

variable {m : Type → Type} [Monad m] [FileStore m]

abbrev Report := List String × Option Failure

def ofTableFault : List String × Option TableFault → Report
  | (lines, fault?) => (lines, fault?.map fun f => .run (.table f))

def inspect (s : Settings) : ExceptT Failure m Report := do
  (s.validate : ExceptT Error m Unit).adapt .run
  let ts ← (loadSchema s.schemaFile).adapt .run
  return ofTableFault (inspection s ts)

def plan (s : Settings) (name : String) (items : Nat) (transactional : Bool) :
    ExceptT Failure m Report := do
  (s.validate : ExceptT Error m Unit).adapt .run
  let ts ← (loadSchema s.schemaFile).adapt .run
  let some t := ts.find? (Text.eqIgnoringAsciiCase ·.name name)
    | throw (.tableNotFound name s.schemaFile)
  match Generation.model s t with
  | .error fault => throw (.run (.table fault))
  | .ok model =>
    let connection := if transactional then Connection.supplied else .ambient
    return (planReport model connection items, none)

def generate (s : Settings) : ExceptT Failure m Report := do
  let g ← s.checkedRun.adapt .run
  return (if s.dryRun then listing s g else [], none)

def perform (s : Settings) : Option Command → ExceptT Failure m Report
  | none | some .generate => generate s
  | some .backend => generate { s with backend := true, client := false }
  | some .client => generate { s with backend := false, client := true }
  | some .inspect => inspect s
  | some (.plan table items transactional) => plan s table items transactional

def execute (environment : Environment) : Request → ExceptT Failure m Report
  | .version => return ([versionLine], none)
  | .perform config schema output dryRun command => do
    let s ← (Settings.load config environment).adapt .run
    perform (override schema output dryRun s) command

def run (environment : Environment) (args : List String) : m Outcome := do
  match Request.ofArguments? args with
  | none => return .usage
  | some request =>
    match ← (execute environment request).run with
    | .ok (lines, failure?) => return .finished lines failure?
    | .error failure => return .finished [] (some failure)

end Scaffold.CommandLine
