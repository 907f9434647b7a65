import Scaffold.Decimal.Numeral
import Scaffold.Text.Blank

/-! The grammar of command lines. -/
namespace Scaffold.CommandLine

inductive Command
  | generate
  | backend
  | client
  | inspect
  | plan (table : String) (items : Nat) (transactional : Bool)
deriving DecidableEq

/-- A request for the version wins over what stands after it. -/
inductive Request
  | version
  | perform (config schema output : Option String) (dryRun : Bool) (command : Option Command)
deriving DecidableEq

/-- The part of the command line that is being read: before a command or after one. -/
inductive Scope
  | root
  | generate
  | backend
  | client
  | inspect
  | plan
deriving DecidableEq

inductive Opt
  | config
  | schema
  | output
  | table
  | items
deriving DecidableEq

inductive Flag
  | dryRun
  | transactional
  | version
deriving DecidableEq

/-- Global options are known on both sides of the command. -/
def Scope.opts : Scope → List (Opt × String × Char)
  | plan => globals ++ [(.table, "table", 't'), (.items, "items", 'n')]
  | _ => globals
where
  globals := [(.config, "config", 'c'), (.schema, "schema", 's'), (.output, "output", 'o')]

def Scope.flags : Scope → List (Flag × String)
  | root => [(.dryRun, "dry-run"), (.version, "version")]
  | plan => [(.dryRun, "dry-run"), (.transactional, "transactional")]
  | _ => [(.dryRun, "dry-run")]

def commandWords : List (String × Scope) := [
  ("generate", .generate), ("backend", .backend), ("client", .client), ("inspect", .inspect),
  ("plan", .plan)]

/-- What has been given on one side of the command. -/
structure Given where
  opts : List (Opt × String) := []
  flags : List Flag := []

namespace Given

/-- Paths are not empty, and the number of items is a number. -/
def allows (o : Opt) (value : String) : Bool :=
  match o with
  | .config | .schema | .output => !value.isEmpty
  | .items => (Numeral.natural? value).isSome
  | .table => true

/-- Nothing is given twice. -/
def withOpt? (g : Given) (o : Opt) (value : String) : Option Given :=
  if (g.opts.lookup o).isSome || !allows o value then none
  else some { g with opts := (o, value) :: g.opts }

def withFlag? (g : Given) (f : Flag) : Option Given :=
  if g.flags.contains f then none else some { g with flags := f :: g.flags }

end Given

/-- What an argument is taken for. -/
inductive Argument
  | word (s : String)
  /-- Nothing but words follows. -/
  | endOfOptions
  | opt (o : Opt) (attached : Option String)
  | flag (f : Flag)
  | unknown

def splitAtEquals (cs : List Char) : List Char × Option String :=
  match cs.dropWhile (· != '=') with
  | [] => (cs, none)
  | _ :: value => (cs.takeWhile (· != '='), some (String.ofList value))

/-- After one letter the value may follow at once, with or without an equals sign. -/
def shortValue : List Char → Option String
  | [] => none
  | '=' :: value => some (String.ofList value)
  | value => some (String.ofList value)

def classify (scope : Scope) (arg : String) : Argument :=
  match arg.toList with
  | ['-', '-'] => .endOfOptions
  | '-' :: '-' :: rest =>
    let (name, attached) := splitAtEquals rest
    let name := String.ofList name
    match scope.opts.find? (·.2.1 == name), scope.flags.find? (·.2 == name), attached with
    | some (o, _), _, _ => .opt o attached
    | none, some (f, _), none => .flag f
    | _, _, _ => .unknown
  | '-' :: letter :: rest =>
    match scope.opts.find? (·.2.2 == letter) with
    | some (o, _) => .opt o (shortValue rest)
    | none => if scope == .root && letter == 'V' then .flag .version else .unknown
  | _ => .word arg

/-- A value that stands on its own does not look like an option. -/
def isValue (arg : String) : Bool := arg == "-" || arg.toList.head? != some '-'

inductive Parse
  | version
  | parsed (before after : Given) (scope : Scope)

/-- `before` holds what was given before the command, once there is one. -/
def parse? (before : Option Given) (scope : Scope) (g : Given) : List String → Option Parse
  | [] => some (.parsed (before.getD g) (if before.isSome then g else {}) scope)
  | arg :: args =>
    match classify scope arg with
    | .word w =>
      match scope, commandWords.lookup w with
      | .root, some inner => parse? (some g) inner {} args
      | _, _ => none
    | .endOfOptions => if args.isEmpty then parse? before scope g args else none
    | .opt o (some value) => do parse? before scope (← g.withOpt? o value) args
    | .opt o none =>
      match args with
      | value :: args =>
        if isValue value then do parse? before scope (← g.withOpt? o value) args else none
      | [] => none
    | .flag .version => some .version
    | .flag f => do parse? before scope (← g.withFlag? f) args
    | .unknown => none

/-- The table and the number of items of a plan have to be given. -/
def command? (scope : Scope) (g : Given) : Option (Option Command) :=
  match scope with
  | .root => some none
  | .generate => some (some .generate)
  | .backend => some (some .backend)
  | .client => some (some .client)
  | .inspect => some (some .inspect)
  | .plan => do
    let table ← g.opts.lookup .table
    let items ← (g.opts.lookup .items).bind Numeral.natural?
    return some (.plan table items (g.flags.contains .transactional))

/-- What is given after the command overrides what is given before it. Nothing if the arguments do
not fit the grammar. -/
def Request.ofArguments? (args : List String) : Option Request := do
  match ← parse? none .root {} args with
  | .version => return version
  | .parsed before after scope =>
    let opt (o : Opt) : Option String := after.opts.lookup o <|> before.opts.lookup o
    let dryRun := before.flags.contains .dryRun || after.flags.contains .dryRun
    return perform (opt .config) (opt .schema) (opt .output) dryRun (← command? scope after)

end Scaffold.CommandLine
