import Scaffold.Error
import Scaffold.Json.Reader

/-! Schemas in JSON: a list of tables, or an object that holds one beside defaults. -/
namespace Scaffold

inductive SchemaDocument
  | tables (ts : List Table)
  | document (rootNamespace database : Option String) (ts : List Table)

namespace SchemaDocument

/-- Only a namespace that is empty and a database that is absent take the defaults. -/
def fill (rootNamespace database : Option String) (t : Table) : Table :=
  { t with
    rootNamespace :=
      if t.rootNamespace.isEmpty then rootNamespace.getD t.rootNamespace else t.rootNamespace
    database := t.database <|> database }

def toTables : SchemaDocument → List Table
  | tables ts => ts
  | document rootNamespace database ts => ts.map (fill rootNamespace database)

def text? : Json → Option String
  | .string s => some s
  | _ => none

def flag? : Json → Option Bool
  | .bool b => some b
  | _ => none

def nullable? {α : Type} (f : Json → Option α) : Json → Option (Option α)
  | .null => some none
  | j => some <$> f j

def list? {α : Type} (f : Json → Option α) : Json → Option (List α)
  | .array items => items.mapM f
  | _ => none

/-- The value of a member, or the default if there is none; a repeated member is refused. -/
def member? {α : Type} (members : List (String × Json)) (name : String) (default : Option α)
    (f : Json → Option α) : Option α :=
  match members.filter (·.1 == name) with
  | [] => default
  | [m] => f m.2
  | _ => none

/-- Columns are objects or arrays of their fields; the flags may be left out. -/
def column? : Json → Option Column
  | .object ms => do
    return { name := ← member? ms "name" none text?
             sourceType := ← member? ms "source_type" none text?
             flaggedKey := ← member? ms "is_primary_key" (some false) flag?
             identity := ← member? ms "is_auto_increment" (some false) flag? }
  | .array (name :: sourceType :: flags) => do
    let c : Column := { name := ← text? name, sourceType := ← text? sourceType }
    match ← flags.mapM flag? with
    | [] => return c
    | [k] => return { c with flaggedKey := k }
    | [k, i] => return { c with flaggedKey := k, identity := i }
    | _ => none
  | _ => none

/-- Tables are objects or arrays of all their fields. -/
def table? : Json → Option Table
  | .object ms => do
    return { name := ← member? ms "name" none text?
             rootNamespace := ← member? ms "namespace" (some "") text?
             entityName := ← member? ms "entity_class_name" (some none) (nullable? text?)
             database := ← member? ms "database" (some none) (nullable? text?)
             columns := ← member? ms "columns" none (list? column?) }
  | .array [name, rootNamespace, entityName, database, columns] => do
    return { name := ← text? name
             rootNamespace := ← text? rootNamespace
             entityName := ← nullable? text? entityName
             database := ← nullable? text? database
             columns := ← list? column? columns }
  | _ => none

def ofJson? : Json → Option SchemaDocument
  | .array items => tables <$> items.mapM table?
  | .object ms => do
    return document (← member? ms "namespace" (some none) (nullable? text?))
      (← member? ms "database" (some none) (nullable? text?))
      (← member? ms "tables" none (list? table?))
  | _ => none

/-- What follows the document is looked at last. -/
def parse (s : String) : Except SchemaTextFault SchemaDocument :=
  match Json.ofChars? s.toList with
  | none => .error .json
  | some (j, rest) =>
    match ofJson? j with
    | none => .error .shape
    | some d => if rest.isEmpty then .ok d else .error .json

end SchemaDocument

end Scaffold
