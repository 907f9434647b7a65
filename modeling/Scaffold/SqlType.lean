import Scaffold.Schema.Table
import Scaffold.Text.Replace

/-! What a source column type becomes in the backend, in the client and in a form. -/
namespace Scaffold

inductive BackendType
  | int | long | short | byte | decimal | double | single | string | dateTime | guid | bool
  | bytes | timeSpan | dateTimeOffset | sqlGeography | sqlGeometry | sqlHierarchyId | dataTable
  | objectArray | object
deriving DecidableEq

namespace BackendType

def text : BackendType → String
  | int => "int"
  | long => "long"
  | short => "short"
  | byte => "byte"
  | decimal => "decimal"
  | double => "double"
  | single => "Single"
  | string => "string"
  | dateTime => "DateTime"
  | guid => "Guid"
  | bool => "bool"
  | bytes => "byte[]"
  | timeSpan => "TimeSpan"
  | dateTimeOffset => "DateTimeOffset"
  | sqlGeography => "Microsoft.SqlServer.Types.SqlGeography"
  | sqlGeometry => "Microsoft.SqlServer.Types.SqlGeometry"
  | sqlHierarchyId => "Microsoft.SqlServer.Types.SqlHierarchyId"
  | dataTable => "DataTable"
  | objectArray => "object[]"
  | object => "object"

/-- Types that need the namespace of SQL Server's own types. -/
def isSqlServerType : BackendType → Bool
  | sqlGeography | sqlGeometry | sqlHierarchyId => true
  | _ => false

end BackendType

inductive ClientType
  | number | string | date | boolean | bytes | anyArray | any
deriving DecidableEq

def ClientType.text : ClientType → String
  | number => "number"
  | string => "string"
  | date => "Date"
  | boolean => "boolean"
  | bytes => "Uint8Array"
  | anyArray => "any[]"
  | any => "any"

inductive InputType
  | number | date | dateTimeLocal | time | checkbox | plain
deriving DecidableEq

def InputType.text : InputType → String
  | number => "number"
  | date => "date"
  | dateTimeLocal => "datetime-local"
  | time => "time"
  | checkbox => "checkbox"
  | plain => "text"

namespace SqlType

/-- The types that are known, in lower case. -/
def known : List String := [
  "int", "int identity", "bigint", "smallint", "tinyint", "decimal", "numeric", "money",
  "smallmoney", "float", "real", "nvarchar", "varchar", "char", "nchar", "text", "ntext", "xml",
  "json", "varchar(max)", "nvarchar(max)", "date", "datetime", "datetime2", "smalldatetime",
  "uniqueidentifier", "bit", "binary", "varbinary", "rowversion", "timestamp", "image",
  "varbinary(max)", "filestream", "time", "datetimeoffset", "geography", "geometry", "hierarchyid",
  "sql_variant", "table", "sql_variant_array"]

/-- What becomes of types. Each row has the names of the types with one outcome. -/
structure Outcomes (α : Type) where
  rows : List (α × List String)
  /-- The outcome of all other types. -/
  otherwise : α

def Outcomes.of {α : Type} (o : Outcomes α) (name : String) : α :=
  match o.rows.find? (·.2.contains name) with
  | some row => row.1
  | none => o.otherwise

def backends : Outcomes BackendType where
  rows := [
    (.int, ["int", "int identity"]),
    (.long, ["bigint"]),
    (.short, ["smallint"]),
    (.byte, ["tinyint"]),
    (.decimal, ["decimal", "numeric", "money", "smallmoney"]),
    (.double, ["float"]),
    (.single, ["real"]),
    (.string, ["nvarchar", "varchar", "char", "nchar", "text", "ntext", "xml", "json",
      "varchar(max)", "nvarchar(max)"]),
    (.dateTime, ["date", "datetime", "datetime2", "smalldatetime"]),
    (.guid, ["uniqueidentifier"]),
    (.bool, ["bit"]),
    (.bytes, ["binary", "varbinary", "rowversion", "timestamp", "image", "varbinary(max)",
      "filestream"]),
    (.timeSpan, ["time"]),
    (.dateTimeOffset, ["datetimeoffset"]),
    (.sqlGeography, ["geography"]),
    (.sqlGeometry, ["geometry"]),
    (.sqlHierarchyId, ["hierarchyid"]),
    (.dataTable, ["table"]),
    (.objectArray, ["sql_variant_array"])]
  otherwise := .object

def clients : Outcomes ClientType where
  rows := [
    (.number, ["int", "int identity", "bigint", "smallint", "tinyint", "decimal", "numeric",
      "money", "smallmoney", "float", "real"]),
    (.string, ["nvarchar", "varchar", "char", "nchar", "text", "ntext", "xml", "json",
      "varchar(max)", "nvarchar(max)", "uniqueidentifier", "time", "datetimeoffset"]),
    (.date, ["date", "datetime", "datetime2", "smalldatetime"]),
    (.boolean, ["bit"]),
    (.bytes, ["binary", "varbinary", "rowversion", "timestamp", "image", "varbinary(max)",
      "filestream"]),
    (.anyArray, ["sql_variant_array"])]
  otherwise := .any

def inputs : Outcomes InputType where
  rows := [
    (.number, ["int", "int identity", "bigint", "smallint", "tinyint", "decimal", "numeric",
      "money", "smallmoney", "float", "real"]),
    (.date, ["date"]),
    (.dateTimeLocal, ["datetime", "datetime2", "smalldatetime", "datetimeoffset"]),
    (.time, ["time"]),
    (.checkbox, ["bit"])]
  otherwise := .plain

/-- The validation attributes that come with types. -/
def rules : Outcomes (Option String) where
  rows := [
    (some "DataType(DataType.Currency)", ["decimal", "numeric", "float", "real"]),
    (some "MaxLength(255)", ["nvarchar", "varchar"]),
    (some "MaxLength(1)", ["char", "nchar"]),
    (some "DataType(DataType.DateTime)", ["datetime", "datetime2", "smalldatetime"])]
  otherwise := none

/-- Cuts at the first opening parenthesis and trims what is left; without one nothing changes. -/
def withoutSuffix (cs : List Char) : List Char :=
  match cs.dropWhile (· != '(') with
  | [] => cs
  | _ :: _ => Text.dropEndWhile Text.isBlank (cs.takeWhile (· != '('))

/-- Lower case and single spaces. A length suffix is dropped unless a known type has it, and
counts as the same with or without a space in front. -/
def normalize (sourceType : String) : String :=
  let collapsed := Text.lower (Text.singleSpaced sourceType)
  if known.contains collapsed then collapsed
  else
    let compact := Text.replace " (" "(" collapsed
    if known.contains compact then compact
    else String.ofList (withoutSuffix compact.toList)

structure Mapping where
  backend : BackendType
  client : ClientType
  input : InputType
deriving DecidableEq

/-- What becomes of a type in normal form. -/
def mappingOf (name : String) : Mapping := ⟨backends.of name, clients.of name, inputs.of name⟩

def mapping (sourceType : String) : Mapping := mappingOf (normalize sourceType)

def isKnown (sourceType : String) : Bool := known.contains (normalize sourceType)

/-- Validation attributes of the entity property; a type that is not known has none. -/
def attributes? (c : Column) : Option (List String) :=
  let name := normalize c.sourceType
  if known.contains name then
    let required := s!"Required(ErrorMessage = \"The {c.name} field is required.\")"
    some ((rules.of name).toList ++ [required])
  else none

end SqlType

end Scaffold
