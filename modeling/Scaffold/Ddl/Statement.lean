import Scaffold.Ddl.Create

/-! Statements of a script. Of those that define no table only the form is checked. -/
namespace Scaffold.Ddl.Statement

open Reader Expression

def temporary : Reader Token Unit := do
  discard (opt (keyword "LOCAL"))
  discard (opt (keyword "GLOBAL"))
  discard (opt (keyword "TRANSIENT"))
  discard (opt (keywordIn ["TEMP", "TEMPORARY"]))

def createTable (i : Inner) : Reader Token TableDefinition := do
  keyword "CREATE"
  discard (opt (phrase ["OR", "REPLACE"]))
  discard (opt (phrase ["OR", "ALTER"]))
  temporary
  discard (opt (keyword "EXTERNAL"))
  keyword "TABLE"
  Create.table i

def createView (i : Inner) : Reader Token Unit := do
  keyword "CREATE"
  discard (opt (phrase ["OR", "REPLACE"] <|> phrase ["OR", "ALTER"]))
  temporary
  discard (opt (keyword "MATERIALIZED"))
  keyword "VIEW"
  Create.presence
  discard objectName
  discard (opt Query.columnNames)
  Create.withOptions i
  keyword "AS"
  discard i.query

def createIndex (i : Inner) : Reader Token Unit := do
  keyword "CREATE"
  discard (opt (keyword "UNIQUE"))
  keyword "INDEX"
  Create.presence
  if !(← ahead (keyword "ON")) then discard objectName
  keyword "ON"
  discard objectName
  discard (parens (commaList (Create.keyPart i)))
  discard (opt (keyword "INCLUDE" *> Query.columnNames))
  Create.withOptions i
  discard (opt (keyword "WHERE" *> full i))

def createNamespace : Reader Token Unit := do
  keyword "CREATE"
  let kind ← keywordIn ["SCHEMA", "DATABASE"]
  Create.presence
  discard objectName
  if kind == "SCHEMA" then discard (opt (keyword "AUTHORIZATION" *> identifier))

def createSequence : Reader Token Unit := do
  keyword "CREATE"
  keyword "SEQUENCE"
  Create.presence
  discard objectName
  discard (opt (keyword "AS" *> DataType.read))
  discard (many Create.sequenceOption)

/-- Statements between `BEGIN` and `END`, each with a semicolon after it. -/
def block (i : Inner) : Reader Token Unit := do
  keyword "BEGIN"
  discard (many (notBefore (keyword "END") *> i.statement *> mark ";"))
  keyword "END"

def procedureParameter (i : Inner) : Reader Token Unit := do
  discard identifier
  discard DataType.read
  discard (opt (mark "=" *> full i))

def createProcedure (i : Inner) : Reader Token Unit := do
  keyword "CREATE"
  discard (opt (phrase ["OR", "ALTER"]))
  keyword "PROCEDURE"
  discard objectName
  discard (opt (parens (sepBy (mark ",") (procedureParameter i))))
  keyword "AS"
  block i <|> i.statement

def objectKinds : List String := [
  "TABLE", "VIEW", "INDEX", "ROLE", "SCHEMA", "DATABASE", "SEQUENCE", "STAGE", "TYPE", "USER",
  "FUNCTION", "PROCEDURE", "TRIGGER"]

def dropObjects : Reader Token Unit := do
  keyword "DROP"
  discard (opt (keyword "TEMPORARY"))
  discard (keywordIn objectKinds) <|> phrase ["MATERIALIZED", "VIEW"]
  discard (opt (phrase ["IF", "EXISTS"]))
  discard (commaList objectName)
  discard (opt (keywordIn ["CASCADE", "RESTRICT"]))
  discard (opt (keyword "PURGE"))
  discard (opt (keyword "ON" *> objectName))

def output (i : Inner) : Reader Token Unit := do
  discard (opt (keyword "OUTPUT" *> commaList (Query.item i) *> opt (keyword "INTO" *> objectName)))

def insert (i : Inner) : Reader Token Unit := do
  keyword "INSERT"
  discard (opt (keyword "INTO"))
  discard (opt (keyword "TABLE"))
  discard objectName
  discard (opt Query.columnNames)
  output i
  phrase ["DEFAULT", "VALUES"] <|> discard i.query

def setting (i : Inner) : Reader Token Unit :=
  (discard objectName <|> discard Query.columnNames) *> mark "=" *> discard (full i)

def update (i : Inner) : Reader Token Unit := do
  keyword "UPDATE"
  discard (Query.joined i Query.nesting)
  keyword "SET"
  discard (commaList (setting i))
  output i
  discard (opt (keyword "FROM" *> Query.tables i))
  discard (opt (keyword "WHERE" *> full i))

def delete (i : Inner) : Reader Token Unit := do
  keyword "DELETE"
  if !(← ahead (keyword "FROM")) then discard (commaList objectName)
  keyword "FROM"
  discard (Query.tables i)
  discard (opt (keyword "WHERE" *> full i))

def alteration (i : Inner) : Reader Token Unit := firstOf [
  keyword "ADD" *> do
    if ← ahead (keywordIn Create.constraintWords) then discard (Create.tableConstraint i)
    else
      discard (opt (keyword "COLUMN"))
      Create.presence
      discard (Create.column i),
  keyword "DROP" *> do
    discard (opt (keywordIn ["CONSTRAINT", "COLUMN"]))
    discard (opt (phrase ["IF", "EXISTS"]))
    discard identifier
    discard (opt (keywordIn ["CASCADE", "RESTRICT"])),
  keywordIn ["ENABLE", "DISABLE"] *> keyword "TRIGGER" *> discard identifier,
  keyword "RENAME" *> do
    discard (opt (opt (keyword "COLUMN") *> identifier))
    keyword "TO"
    discard identifier,
  keyword "ALTER" *> opt (keyword "COLUMN") *> identifier *> firstOf [
    phrase ["SET", "NOT", "NULL"], phrase ["DROP", "NOT", "NULL"], phrase ["DROP", "DEFAULT"],
    phrase ["SET", "DEFAULT"] *> discard (full i),
    (phrase ["SET", "DATA", "TYPE"] <|> keyword "TYPE") *> discard DataType.read]]

def alterTable (i : Inner) : Reader Token Unit := do
  phrase ["ALTER", "TABLE"]
  discard (opt (phrase ["IF", "EXISTS"]))
  discard (opt (keyword "ONLY"))
  discard objectName
  discard (commaList (alteration i))

def truncate : Reader Token Unit := do
  keyword "TRUNCATE"
  discard (opt (keyword "TABLE"))
  discard (commaList objectName)

def transactionWord : Reader Token Unit :=
  discard (opt (keywordIn ["TRANSACTION", "TRAN", "WORK"]))

def transaction : Reader Token Unit := firstOf [
  phrase ["START", "TRANSACTION"],
  keywordIn ["BEGIN", "COMMIT", "ROLLBACK", "END"] *> transactionWord]

/-- The equals sign may be left out. -/
def set (i : Inner) : Reader Token Unit := do
  keyword "SET"
  phrase ["TRANSACTION", "ISOLATION", "LEVEL"] *> discard (many1 anyWord) <|> do
    discard objectName
    discard (if ← accepts (mark "=") then exprList i else full i)

def declare (i : Inner) : Reader Token Unit := do
  keyword "DECLARE"
  discard (commaList (do
    discard identifier
    discard (opt (keyword "AS"))
    discard DataType.read
    discard (opt (mark "=" *> full i))))

def execute (i : Inner) : Reader Token Unit := do
  discard (keywordIn ["EXEC", "EXECUTE"])
  discard objectName
  discard (opt (exprList i))

def use : Reader Token Unit := keyword "USE" *> discard objectName

def print (i : Inner) : Reader Token Unit := keyword "PRINT" *> discard (full i)

/-- A table defined under a condition is not one of the script's. -/
def conditional (i : Inner) : Reader Token Unit := do
  keyword "IF"
  discard (full i)
  block i <|> i.statement
  discard (opt (opt (mark ";") *> keyword "ELSE" *> (block i <|> i.statement)))

def queryStarts : Reader Token Unit := discard (keywordIn ("VALUES" :: starts)) <|> mark "("

def other (i : Inner) : Reader Token Unit := firstOf [
  before queryStarts *> discard i.query, createView i, createIndex i, createNamespace,
  createSequence, createProcedure i, dropObjects, insert i, update i, delete i, alterTable i,
  truncate, transaction, set i, declare i, execute i, use, print i, conditional i]

def read (i : Inner) : Reader Token (Option TableDefinition) :=
  some <$> createTable i <|> other i *> pure none

end Scaffold.Ddl.Statement
