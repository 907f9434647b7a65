import Scaffold.Ddl.Query
import Scaffold.Ddl.TableDefinition

/-! Reading of table definitions. -/
namespace Scaffold.Ddl.Create

open Reader Expression

def numberValue : Reader Token String := do
  let front ← opt sign
  return front.getD "" ++ (← numeral)

/-- Clauses in any order. They are printed in the order of the list, each behind a blank. -/
def clauses (kinds : List (Reader Token String)) : Reader Token String := do
  let found ← many (firstOf (kinds.zipIdx.map fun (r, rank) => (rank, ·) <$> r))
  let sorted := found.mergeSort fun a b => a.1 ≤ b.1
  return String.join (sorted.map fun (_, text) => " " ++ text)

/-- A clause that may be negated. -/
def negatable (k : String) : Reader Token String := words ["NOT", k] <|> words [k]

def characteristics : Reader Token String := clauses [
  negatable "DEFERRABLE", after ["INITIALLY"] (keywordIn ["DEFERRED", "IMMEDIATE"]),
  negatable "ENFORCED"]

def referentialAction : Reader Token String := firstOf [
  keywordIn ["RESTRICT", "CASCADE"], words ["SET", "NULL"], words ["SET", "DEFAULT"],
  words ["NO", "ACTION"]]

def references : Reader Token String := do
  let target ← after ["REFERENCES"] Query.name
  let columns ← clause Query.columnNames
  let actions ← clauses [
    after ["MATCH"] (keywordIn ["FULL", "PARTIAL", "SIMPLE"]),
    after ["ON", "DELETE"] referentialAction,
    after ["ON", "UPDATE"] referentialAction]
  return target ++ columns ++ actions ++ (← characteristics)

/-- In a parenthesis the value ends where the parenthesis does. -/
def defaultValue (i : Inner) : Reader Token String :=
  after ["DEFAULT"] do if ← ahead (mark "(") then operand i else full i

def sequenceOption : Reader Token String := firstOf [
  after ["INCREMENT", "BY"] numberValue, after ["INCREMENT"] numberValue,
  after ["START", "WITH"] numberValue, after ["START"] numberValue,
  after ["MINVALUE"] numberValue, after ["MAXVALUE"] numberValue,
  after ["NO"] (keywordIn ["MINVALUE", "MAXVALUE", "CYCLE"]),
  after ["CACHE"] numberValue, words ["CYCLE"]]

/-- The printed options of a sequence have a blank in front of each and one behind the last. -/
def sequenceText (options : List String) : String :=
  if options.isEmpty then "" else " (" ++ String.join (options.map (" " ++ ·)) ++ " )"

def generated (i : Inner) : Reader Token String := do
  keyword "GENERATED"
  let way ← words ["ALWAYS", "AS"] <|> words ["BY", "DEFAULT", "AS"]
  if ← accepts (keyword "IDENTITY") then
    let options ← opt (parens (many sequenceOption))
    return s!"GENERATED {way} IDENTITY" ++ sequenceText (options.getD [])
  else
    let value ← bracketed (full i)
    let storage ← clause (keywordIn ["STORED", "VIRTUAL", "PERSISTED"])
    return s!"GENERATED {way} {value}{storage}"

def identityProperty : Reader Token String := do
  keyword "IDENTITY"
  if ← ahead (mark "(") then
    return "IDENTITY" ++ (← bracketed do
      let seed ← numberValue
      mark ","
      return s!"{seed}, {← numberValue}")
  else return "IDENTITY"

/-- Words that other dialects have as options. In this order they are passed over. -/
def skippedWords : Reader Token Unit := do
  discard (opt (keyword "AUTOINCREMENT"))
  discard (opt (keyword "ASC"))
  discard (opt (keyword "DESC"))
  discard (opt (phrase ["ON", "UPDATE"]))

/-- Of a key option the printed form is not kept. -/
def columnOption (i : Inner) : Reader Token ColumnOption :=
  let printed : Reader Token String := firstOf [
    after ["CHARACTER", "SET"] Query.name,
    after ["COLLATE"] Query.name,
    words ["NOT", "NULL"],
    after ["COMMENT"] do return Ident.text ⟨← stringValue, some '\''⟩,
    words ["NULL"],
    defaultValue i,
    do return (← words ["UNIQUE"]) ++ (← characteristics),
    references,
    after ["CHECK"] (bracketed (full i)),
    skippedWords *> (generated i <|> identityProperty)]
  phrase ["PRIMARY", "KEY"] *> characteristics *> pure .primaryKey <|> .other <$> printed

def constraintName : Reader Token Unit := keyword "CONSTRAINT" *> discard identifier

def column (i : Inner) : Reader Token ColumnDefinition := do
  let name ← anyWord
  let type ← DataType.read
  let options ← many (opt constraintName *> columnOption i)
  skippedWords
  return { name, type, options }

/-- A word on its own is a column, whatever else it could be. -/
def keyPart (i : Inner) : Reader Token KeyPart := do
  let before ← get
  let text ← full i
  let after ← get
  let part := match before with
    | .word name quote :: rest =>
      if rest.length == after.length then KeyPart.column ⟨name, quote⟩ else .expression text
    | _ => .expression text
  if !(← ahead (keywordIn ["ASC", "DESC", "NULLS", "WITH"])) then discard (opt identifier)
  discard direction
  return part

def indexName : Reader Token Unit := do
  discard (opt identifier)
  discard (opt (keyword "USING" *> identifier))

def tableConstraint (i : Inner) : Reader Token TableConstraint :=
  opt constraintName *> firstOf [
    do
      keyword "UNIQUE"
      notBefore (keywordIn ["KEY", "INDEX"])
      discard (opt (keyword "NULLS" *> opt (keyword "NOT") *> keyword "DISTINCT"))
      indexName
      discard (parens (commaList (keyPart i)))
      discard characteristics
      return .other,
    do
      phrase ["PRIMARY", "KEY"]
      indexName
      let parts ← parens (commaList (keyPart i))
      discard characteristics
      return .primaryKey parts,
    do
      phrase ["FOREIGN", "KEY"]
      discard (opt identifier)
      discard Query.columnNames
      discard references
      return .other,
    do
      keyword "CHECK"
      discard (parens (full i))
      discard (opt (opt (keyword "NOT") *> keyword "ENFORCED"))
      return .other]

def constraintWords : List String := ["CONSTRAINT", "UNIQUE", "PRIMARY", "FOREIGN", "CHECK"]

/-- Words that begin a constraint never name a column. -/
def element (i : Inner) : Reader Token (ColumnDefinition ⊕ TableConstraint) := do
  if ← ahead (keywordIn constraintWords) then return .inr (← tableConstraint i)
  else return .inl (← column i)

def elements (i : Inner) : Reader Token (List (ColumnDefinition ⊕ TableConstraint)) := do
  if ← accepts (mark "(" *> mark ")") then return []
  else if ← ahead (mark "(") then parens (commaList (element i))
  else return []

def assignment (i : Inner) : Reader Token Unit := do
  discard identifier
  discard (opt (mark "=" *> full i))

def withOptions (i : Inner) : Reader Token Unit :=
  discard (opt (keyword "WITH" *> parens (commaList (assignment i))))

def presence : Reader Token Unit := discard (opt (phrase ["IF", "NOT", "EXISTS"]))

/-- Without `TABLE` in front, which the caller reads. -/
def table (i : Inner) : Reader Token TableDefinition := do
  presence
  let name ← objectName
  discard (opt (keywordIn ["LIKE", "ILIKE", "CLONE"] *> objectName))
  let parts ← elements i
  withOptions i
  discard (opt (phrase ["ON", "COMMIT"] *>
    (phrase ["DELETE", "ROWS"] <|> phrase ["PRESERVE", "ROWS"] <|> keyword "DROP")))
  discard (opt (keyword "AS" *> i.query))
  return { name
           columns := parts.filterMap Sum.getLeft?
           constraints := parts.filterMap Sum.getRight? }

end Scaffold.Ddl.Create
