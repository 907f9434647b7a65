import Scaffold.Ddl.Name

/-! Column types and their printed form. -/
namespace Scaffold.Ddl

open Reader

/-- A type is known by its key words, or else it is a name with free arguments. -/
inductive DataType
  | known (name : String) (arguments : List String) (suffix : String)
  | custom (name : List Ident) (arguments : List String)

namespace DataType

def argumentText (separator : String) (arguments : List String) : String :=
  if arguments.isEmpty then "" else "(" ++ separator.intercalate arguments ++ ")"

def text : DataType → String
  | known name arguments suffix => name ++ argumentText "," arguments ++ suffix
  | custom name arguments => nameText name ++ argumentText ", " arguments

def decimalDigits? (s : String) : Option Nat :=
  if s.toList.all Text.isAsciiDigit then some (Text.ofDigits 10 s.toList) else none

/-- A number below the bound, which is printed without leading zeros. -/
def numberBelow (bound : Nat) : Reader Token Nat := do
  match ← item with
  | .number s _ =>
    let n ← ofOption (decimalDigits? s)
    require (n < bound)
    return n
  | _ => failure

def unsigned : Reader Token String := toString <$> numberBelow Text.unsignedBound

def signed : Reader Token String := do
  let negative ← accepts (mark "-")
  if !negative then discard (opt (mark "+"))
  let n ← numberBelow Text.signedBound
  return if negative && n != 0 then s!"-{n}" else toString n

/-- What may stand in parentheses after a known type. -/
inductive Shape
  | size
  /-- Precision and scale. -/
  | number
  /-- A size, possibly with a unit, or the largest there is. -/
  | length
  | binaryLength

def largest : Reader Token String := keyword "MAX" *> pure "MAX"

def sizeWithUnit : Reader Token String := do
  let n ← unsigned
  match ← opt (keywordIn ["CHARACTERS", "OCTETS"]) with
  | some unit => return s!"{n} {unit}"
  | none => return n

def Shape.values : Shape → Reader Token (List String)
  | size => do return [← unsigned]
  | number => do return (← unsigned) :: (← whenOne (.symbol ",") signed).toList
  | length => do return [← largest <|> sizeWithUnit]
  | binaryLength => do return [← largest <|> unsigned]

/-- Without a parenthesis there are no arguments; with one, they have to be as the shape says. -/
def arguments (shape : Shape) : Reader Token (List String) := do
  if ← ahead (mark "(") then parens shape.values else return []

def plainNames : List String := [
  "BOOLEAN", "BOOL", "FLOAT4", "FLOAT8", "FLOAT32", "FLOAT64", "INT16", "INT32", "INT64",
  "INT128", "INT256", "HUGEINT", "UBIGINT", "UHUGEINT", "USMALLINT", "UTINYINT", "UINT8",
  "UINT16", "UINT32", "UINT64", "UINT128", "UINT256", "UUID", "DATE", "DATE32", "JSON", "JSONB",
  "REGCLASS", "TEXT", "TINYTEXT", "MEDIUMTEXT", "LONGTEXT", "BYTEA", "TINYBLOB", "MEDIUMBLOB",
  "LONGBLOB", "TRIGGER", "INTERVAL"]

def sizedNames : List String := [
  "CLOB", "BINARY", "BLOB", "BYTES", "VARBIT", "DATETIME", "STRING", "TIMESTAMP_NTZ"]

/-- Types that may be called unsigned. -/
def integerNames : List String := [
  "TINYINT", "INT2", "SMALLINT", "MEDIUMINT", "INT", "INT4", "INT8", "INTEGER", "BIGINT"]

def unsignedSuffix : Reader Token String := do
  return if ← accepts (keyword "UNSIGNED") then " UNSIGNED" else ""

def timeZone : Reader Token String :=
  firstOf [
    phrase ["WITH", "TIME", "ZONE"] *> pure " WITH TIME ZONE",
    phrase ["WITHOUT", "TIME", "ZONE"] *> pure " WITHOUT TIME ZONE",
    notBefore (keywordIn ["WITH", "WITHOUT"]) *> pure ""]

def stringList : Reader Token String := do
  let quoted (s : String) : String := Ident.text ⟨s, some '\''⟩
  return ", ".intercalate (← parens (commaList (quoted <$> stringValue)))

def characterType (k : String) : Reader Token DataType := do
  if ← accepts (keyword "VARYING") then return known (k ++ " VARYING") (← arguments .length) ""
  else if ← accepts (phrase ["LARGE", "OBJECT"]) then
    return known (k ++ " LARGE OBJECT") (← arguments .size) ""
  else return known k (← arguments .length) ""

/-- `ARRAY` on its own is no type. -/
def ofKeyword (k : String) : Reader Token DataType := do
  if plainNames.contains k then return known k [] ""
  if sizedNames.contains k then return known k (← arguments .size) ""
  if integerNames.contains k then return known k (← arguments .size) (← unsignedSuffix)
  match k with
  | "VARCHAR" | "NVARCHAR" => return known k (← arguments .length) ""
  | "CHARACTER" | "CHAR" => characterType k
  | "VARBINARY" => return known k (← arguments .binaryLength) ""
  | "NUMERIC" | "BIGNUMERIC" | "BIGDECIMAL" => return known k (← arguments .number) ""
  | "FLOAT" | "DECIMAL" | "DEC" => return known k (← arguments .number) (← unsignedSuffix)
  | "REAL" => return known k [] (← unsignedSuffix)
  | "DOUBLE" =>
    if ← accepts (keyword "PRECISION") then return known "DOUBLE PRECISION" [] (← unsignedSuffix)
    else return known k (← arguments .number) (← unsignedSuffix)
  | "BIT" =>
    let name := if ← accepts (keyword "VARYING") then "BIT VARYING" else k
    return known name (← arguments .size) ""
  | "TIME" | "TIMESTAMP" => return known k (← arguments .size) (← timeZone)
  | "TIMETZ" | "TIMESTAMPTZ" => return known k (← arguments .size) ""
  | "SIGNED" | "UNSIGNED" =>
    return known k [] (if ← accepts (keyword "INTEGER") then " INTEGER" else "")
  | "FIXEDSTRING" => return known k [← parens unsigned] ""
  | "DATETIME64" =>
    let zone : Reader Token String := do
      let z ← stringValue
      return s!", '{z}'"
    let both ← parens do return (← unsigned) ++ (← opt (mark "," *> zone)).getD ""
    return known k [both] ""
  | "ENUM" | "SET" => return known k [← stringList] ""
  | "TABLE" =>
    notBefore (mark "(")
    return known k [] ""
  | _ => failure

def knownNames : List String := plainNames ++ sizedNames ++ integerNames ++ [
  "VARCHAR", "NVARCHAR", "CHARACTER", "CHAR", "VARBINARY", "NUMERIC", "BIGNUMERIC", "BIGDECIMAL",
  "FLOAT", "DECIMAL", "DEC", "REAL", "DOUBLE", "BIT", "TIME", "TIMESTAMP", "TIMETZ", "TIMESTAMPTZ",
  "SIGNED", "UNSIGNED", "FIXEDSTRING", "DATETIME64", "ENUM", "SET", "TABLE", "ARRAY"]

def ofKnownName : Reader Token DataType := do ofKeyword (← keywordIn knownNames)

/-- Words keep their quotes, strings lose them; commas do not matter. -/
def freeArgument : Reader Token (Option String) := do
  match ← item with
  | .word text quote => return some (Ident.text ⟨text, quote⟩)
  | .number s _ => return some s
  | .string s => return some s
  | .symbol "," => return none
  | _ => failure

def ofName : Reader Token DataType := do
  let name ← objectName
  let free ← whenOne (.symbol "(") (many freeArgument <* mark ")")
  return custom name ((free.getD []).filterMap id)

/-- A known name is never read as a custom one, and a type begins with a word. -/
def read : Reader Token DataType := do
  if ← ahead (keywordIn knownNames) then ofKnownName
  else
    before anyWord
    ofName

end DataType

end Scaffold.Ddl
