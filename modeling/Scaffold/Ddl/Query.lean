import Scaffold.Ddl.Expression

/-! Queries. They are recognised and kept as texts. -/
namespace Scaffold.Ddl.Query

open Reader Expression

/-- Words that cannot be the alias of a column. -/
def notColumnAlias : List String := [
  "WITH", "EXPLAIN", "ANALYZE", "SELECT", "WHERE", "GROUP", "SORT", "HAVING", "ORDER", "TOP",
  "LATERAL", "VIEW", "LIMIT", "OFFSET", "FETCH", "UNION", "EXCEPT", "EXCLUDE", "INTERSECT",
  "MINUS", "CLUSTER", "DISTRIBUTE", "RETURNING", "FROM", "INTO", "END", "IF", "ELSE"]

/-- Words that cannot be the alias of a table. -/
def notTableAlias : List String := [
  "WITH", "EXPLAIN", "ANALYZE", "SELECT", "WHERE", "GROUP", "SORT", "HAVING", "ORDER", "PIVOT",
  "UNPIVOT", "TOP", "LATERAL", "VIEW", "LIMIT", "OFFSET", "FETCH", "UNION", "EXCEPT", "INTERSECT",
  "MINUS", "ON", "JOIN", "INNER", "CROSS", "FULL", "LEFT", "RIGHT", "NATURAL", "USING", "CLUSTER",
  "DISTRIBUTE", "GLOBAL", "ANTI", "SEMI", "RETURNING", "OUTPUT", "ASOF", "OUTER", "SET", "QUALIFY",
  "WINDOW", "END", "FOR", "START", "CONNECT", "MATCH_RECOGNIZE", "SAMPLE", "TABLESAMPLE", "FROM",
  "OPEN", "IF", "ELSE"]

def name : Reader Token String := nameText <$> objectName

/-- After `AS` any identifier will do. -/
def label (refused : List String) : Reader Token String :=
  clause do
    let given ← keyword "AS" *> identifier <|> do
      let t ← peek?
      require !((t.bind Token.keyword?).any refused.contains)
      identifier
    return "AS " ++ given.text

/-- A name `FROM` is refused as an item. -/
def item (i : Inner) : Reader Token String :=
  star <|> do
    notBefore (keyword "FROM")
    return (← full i) ++ (← label notColumnAlias)

def columnNames : Reader Token String := bracketed (listed (Ident.text <$> identifier))

/-- A named table, or the call of a function that gives one. -/
def source (i : Inner) : Reader Token String := do
  let table ← name
  if ← ahead (mark "(") then return table ++ (← call i) else return table

def tableHints (i : Inner) : Reader Token String := clause (after ["WITH"] (bracketed (exprList i)))

mutual

/-- A table, a query or a join in parentheses; parentheses nest up to the given depth. -/
def factor (i : Inner) : Nat → Reader Token String
  | 0 => failure
  | depth + 1 => do
    let content ←
      if ← ahead (mark "(" *> (discard (keywordIn ("VALUES" :: starts)) <|> mark "(")) then
        bracketed i.query <|> bracketed (joined i depth)
      else if ← ahead (mark "(") then bracketed (joined i depth)
      else source i
    let given ← label notTableAlias
    let columns ← clause columnNames
    return content ++ given ++ columns ++ (← tableHints i)

def joined (i : Inner) (depth : Nat) : Reader Token String := do
  let first ← factor i depth
  return first ++ String.join (← many (join i depth))

def join (i : Inner) (depth : Nat) : Reader Token String := do
  match ← opt (keywordIn ["CROSS", "OUTER"] <* keyword "APPLY") with
  | some side => return s!" {side} APPLY " ++ (← factor i depth)
  | none =>
    if ← accepts (phrase ["CROSS", "JOIN"]) then return " CROSS JOIN " ++ (← factor i depth)
    else
      let natural ← clause (words ["NATURAL"])
      let kind ← clause (words ["INNER"] <|> do
        let side ← keywordIn ["LEFT", "RIGHT", "FULL"]
        let outer ← clause (words ["OUTER"])
        return side ++ if side == "FULL" then "" else outer)
      let right ← after ["JOIN"] (factor i depth)
      let condition ← clause (after ["ON"] (full i) <|> do
        keyword "USING"
        return "USING" ++ (← columnNames))
      return natural ++ kind ++ " " ++ right ++ condition

end

def nesting : Nat := 48

def tables (i : Inner) : Reader Token String := listed (joined i nesting)

def top (i : Inner) : Reader Token String := do
  keyword "TOP"
  let count ← if ← ahead (mark "(") then bracketed (full i) else numeral
  let percent ← clause (words ["PERCENT"])
  let ties ← clause (words ["WITH", "TIES"])
  return "TOP " ++ count ++ percent ++ ties

def select (i : Inner) : Reader Token String := do
  keyword "SELECT"
  let quantity ← clause (keywordIn ["DISTINCT", "ALL"])
  let top ← clause (top i)
  let items ← listed (item i)
  let target ← clause (after ["INTO"] name)
  let source ← clause (after ["FROM"] (tables i))
  let condition ← clause (after ["WHERE"] (full i))
  let groups ← clause (after ["GROUP", "BY"] (exprList i))
  let having ← clause (after ["HAVING"] (full i))
  return s!"SELECT{quantity}{top} {items}{target}{source}{condition}{groups}{having}"

def rows (i : Inner) : Reader Token String := after ["VALUES"] (listed (bracketed (exprList i)))

def body (i : Inner) : Reader Token String := do
  let one := firstOf [select i, rows i, bracketed i.query]
  let first ← one
  let further ← many do
    let op ← keywordIn ["UNION", "EXCEPT", "INTERSECT", "MINUS"]
    let quantity ← clause (keywordIn ["ALL", "DISTINCT"])
    let right ← one
    return s!" {op}{quantity} {right}"
  return first ++ String.join further

/-- A named query in front of another. -/
def common (i : Inner) : Reader Token String := do
  let name ← identifier
  let columns ← clause columnNames
  let query ← after ["AS"] (bracketed i.query)
  return s!"{name.text}{columns} {query}"

def rowWord : Reader Token String := keywordIn ["ROW", "ROWS"]

def limits (i : Inner) : Reader Token String := do
  let limit ← clause (after ["LIMIT"] (full i))
  let offset ← clause do
    let count ← after ["OFFSET"] (full i)
    return count ++ (← clause rowWord)
  let fetch ← clause do
    keyword "FETCH"
    discard (keywordIn ["FIRST", "NEXT"])
    let count ← if ← ahead rowWord then pure "" else (" " ++ ·) <$> full i
    discard rowWord
    let extent ← words ["ONLY"] <|> words ["WITH", "TIES"]
    return s!"FETCH FIRST{count} ROWS {extent}"
  return limit ++ offset ++ fetch

/-- The form in which the rows are handed out. -/
def forClause : Reader Token String := do
  keyword "FOR"
  match ← keywordIn ["XML", "JSON", "BROWSE"] with
  | "BROWSE" => return "FOR BROWSE"
  | form =>
    let content := clause do return "(" ++ Ident.text ⟨← parens stringValue, some '\''⟩ ++ ")"
    let mode ← keywordIn ["RAW", "AUTO", "EXPLICIT", "PATH"]
    let label ← content
    let directives ← many do
      mark ","
      let word ← anyWord
      return ", " ++ word.text ++ (← content)
    return s!"FOR {form} {mode}{label}{String.join directives}"

def named (i : Inner) : Reader Token String := do
  keyword "WITH"
  let recursive ← clause (words ["RECURSIVE"])
  let queries ← listed (common i)
  return s!"WITH{recursive} {queries} "

def read (i : Inner) : Reader Token String := do
  let prelude ← opt (named i)
  let content ← body i
  let order ← clause (orderBy i)
  let limits ← limits i
  let form ← clause forClause
  return prelude.getD "" ++ content ++ order ++ limits ++ form

end Scaffold.Ddl.Query
