import Scaffold.Schema.Table

/-! The identifiers that the artifacts of one table share. -/
namespace Scaffold

/-- The per-record components of the client. -/
inductive Operation
  | insert
  | update
  | delete
  | get
deriving DecidableEq

namespace Operation

def all : List Operation := [insert, update, delete, get]

def word : Operation → String
  | insert => "insert"
  | update => "update"
  | delete => "delete"
  | get => "get"

def capitalized : Operation → String
  | insert => "Insert"
  | update => "Update"
  | delete => "Delete"
  | get => "Get"

end Operation

structure Names where
  table : String
  entity : String
  /-- The table's name in lower case, for client files and variables. -/
  stem : String
  accessClass : String
  serviceInterface : String
  serviceClass : String
  controller : String
  clientService : String
  serviceVariable : String
  matTableClass : String
  route : String
  configNamespace : String
  entitiesNamespace : String
  accessNamespace : String
  servicesNamespace : String
  controllersNamespace : String
deriving DecidableEq

namespace Names

def ofTable (t : Table) (database : String) : Names :=
  let stem := Text.lower t.name
  let root := String.ofList (Text.dropEndWhile (· == '.') t.rootNamespace.toList)
  { table := t.name
    entity := t.entity
    stem
    accessClass := t.name ++ "Access"
    serviceInterface := "I" ++ t.name ++ "Service"
    serviceClass := t.name ++ "Service"
    controller := t.name ++ "Controller"
    clientService := t.name ++ "Service"
    serviceVariable := stem ++ "Service"
    matTableClass := t.name ++ "MatTable"
    route := t.name
    configNamespace := root ++ ".Database.Access"
    entitiesNamespace := root ++ ".Database.Entities." ++ database
    accessNamespace := root ++ ".Database.Access." ++ database
    servicesNamespace := root ++ ".Services." ++ database ++ "." ++ t.name
    controllersNamespace := root ++ ".Controllers" }

def qualifiedEntity (n : Names) : String := n.entitiesNamespace ++ "." ++ n.entity

def componentClass (n : Names) (op : Operation) : String :=
  n.entity ++ op.capitalized ++ "Component"

/-- Folder and file name of a component. -/
def componentStem (n : Names) (op : Operation) : String := n.stem ++ "-" ++ op.word

def componentSelector (n : Names) (op : Operation) : String := "app-" ++ n.componentStem op

def matTableSelector (n : Names) : String := "app-" ++ n.stem ++ "-mat-table"

end Names

end Scaffold
