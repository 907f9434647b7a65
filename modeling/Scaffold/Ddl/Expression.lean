import Scaffold.Ddl.DataType

/-! Expressions. They are recognised and kept as texts. -/
namespace Scaffold.Ddl

open Reader

/-- Readers for what is nested in a construct. -/
structure Inner where
  /-- An expression whose operators bind more strongly than the number says. -/
  expr : Nat → Reader Token String
  query : Reader Token String
  statement : Reader Token Unit

namespace Expression

/-- Binding strengths of the binary operators. -/
def operators : List (String × Nat) := [
  ("OR", 5), ("AND", 10), ("=", 20), ("==", 20), ("<>", 20), ("!=", 20), ("<", 20), (">", 20),
  ("<=", 20), (">=", 20), ("|", 21), ("^", 22), ("<<", 22), (">>", 22), ("&", 23), ("XOR", 24),
  ("+", 30), ("-", 30), ("*", 40), ("/", 40), ("%", 40), ("||", 40)]

def negation : Nat := 15

def comparison : Nat := 20

def likeness : Nat := 19

def nullTest : Nat := 17

def sum : Nat := 30

def product : Nat := 40

def timeShift : Nat := 41

def castMark : Nat := 50

def numeral : Reader Token String := do
  match ← item with
  | .number s long => return if long then s ++ "L" else s
  | _ => failure

def value : Reader Token String := numeral <|> do
  match ← item with
  | .string s => return Ident.text ⟨s, some '\''⟩
  | .national s => return s!"N'{s}'"
  | .binary s => return s!"X'{s}'"
  | t =>
    require (t.keyword? == some "NULL")
    return "NULL"

/-- A literal after the name of its type. -/
def typedValue : Reader Token String := do
  let type ← DataType.ofKnownName
  return type.text ++ " " ++ (← value)

/-- Key words with single blanks between. -/
def words (ws : List String) : Reader Token String := phrase ws *> pure (" ".intercalate ws)

/-- Key words in front of what the reader gives. -/
def after (ws : List String) (r : Reader Token String) : Reader Token String := do
  return (← words ws) ++ " " ++ (← r)

def bracketed (r : Reader Token String) : Reader Token String := do
  return "(" ++ (← parens r) ++ ")"

def listed (r : Reader Token String) : Reader Token String := do
  return ", ".intercalate (← commaList r)

def full (i : Inner) : Reader Token String := i.expr 0

def exprList (i : Inner) : Reader Token String := listed (full i)

def direction : Reader Token String := do
  let order ← clause (keywordIn ["ASC", "DESC"])
  let nulls ← clause (after ["NULLS"] (keywordIn ["FIRST", "LAST"]))
  return order ++ nulls

def orderList (i : Inner) : Reader Token String := listed do return (← full i) ++ (← direction)

def orderBy (i : Inner) : Reader Token String := after ["ORDER", "BY"] (orderList i)

def caseOf (i : Inner) : Reader Token String := do
  keyword "CASE"
  let subject ← if ← ahead (keyword "WHEN") then pure "" else (" " ++ ·) <$> full i
  let branches ← many1 do
    let condition ← after ["WHEN"] (full i)
    let result ← after ["THEN"] (full i)
    return s!" {condition} {result}"
  let otherwise ← clause (after ["ELSE"] (full i))
  keyword "END"
  return "CASE" ++ subject ++ String.join branches ++ otherwise ++ " END"

def cast (i : Inner) : Reader Token String := do
  let verb ← keywordIn ["CAST", "TRY_CAST", "SAFE_CAST"]
  return verb ++ (← bracketed do
    let e ← full i
    keyword "AS"
    return e ++ " AS " ++ (← DataType.read).text)

def conversion (i : Inner) : Reader Token String := do
  let verb ← keywordIn ["CONVERT", "TRY_CONVERT"]
  return verb ++ (← bracketed do
    let type ← DataType.read
    mark ","
    return type.text ++ ", " ++ (← exprList i))

def starts : List String := ["SELECT", "WITH"]

/-- A list of expressions, or a query, in parentheses. -/
def group (i : Inner) : Reader Token String :=
  bracketed do
    if ← ahead (keywordIn starts) then i.query
    else exprList i

def star : Reader Token String := do
  let parts ← many (identifier <* mark ".")
  mark "*"
  return String.join (parts.map fun part => part.text ++ ".") ++ "*"

def argumentName : Reader Token String := do
  let name ← anyWord
  let arrow ← mark "=>" *> pure "=>" <|> mark ":=" *> pure ":="
  return s!"{name.text} {arrow} "

def argument (i : Inner) : Reader Token String := do
  let name ← opt argumentName
  let content ← if ← ahead (keywordIn starts) then i.query else star <|> full i
  return name.getD "" ++ content

def frameBound (i : Inner) : Reader Token String :=
  words ["CURRENT", "ROW"] <|> do
    let count ← words ["UNBOUNDED"] <|> full i
    return count ++ " " ++ (← keywordIn ["PRECEDING", "FOLLOWING"])

def frame (i : Inner) : Reader Token String := do
  let unit ← keywordIn ["ROWS", "RANGE", "GROUPS"]
  if ← accepts (keyword "BETWEEN") then
    let first ← frameBound i
    let last ← after ["AND"] (frameBound i)
    return s!"{unit} BETWEEN {first} {last}"
  else return unit ++ " " ++ (← frameBound i)

def window (i : Inner) : Reader Token String := do
  let partition ← opt (after ["PARTITION", "BY"] (exprList i))
  let order ← opt (orderBy i)
  let rows ← opt (frame i)
  return " ".intercalate (partition.toList ++ order.toList ++ rows.toList)

def arguments (i : Inner) : Reader Token String := do
  let quantity ← opt (keywordIn ["DISTINCT", "ALL"])
  let content ← listed (argument i)
  let order ← clause (orderBy i)
  return quantity.elim "" (· ++ " ") ++ content ++ order

def call (i : Inner) : Reader Token String := do
  let content ← bracketed do return (← opt (arguments i)).getD ""
  let within ← clause (after ["WITHIN", "GROUP"] (bracketed (orderBy i)))
  let filter ← clause (after ["FILTER"] (bracketed (after ["WHERE"] (full i))))
  let nulls ← clause do
    let treatment ← keywordIn ["IGNORE", "RESPECT"]
    keyword "NULLS"
    return treatment ++ " NULLS"
  let frame ← clause (after ["OVER"] (bracketed (window i) <|> Ident.text <$> anyWord))
  return content ++ within ++ filter ++ nulls ++ frame

/-- Further parts of a name, each behind its period. -/
def parts : Reader Token String := do
  let names ← many (mark "." *> identifier)
  return String.join (names.map fun name => "." ++ name.text)

/-- Any word may be a name. -/
def named (i : Inner) : Reader Token String := do
  let first ← anyWord
  let name := first.text ++ (← parts)
  if ← ahead (mark "(") then return name ++ (← call i) else return name

def sign : Reader Token String := mark "+" *> pure "+" <|> mark "-" *> pure "-"

def operand (i : Inner) : Reader Token String := do
  let content ← firstOf [
    typedValue, value, caseOf i, cast i, conversion i, after ["EXISTS"] (bracketed i.query),
    after ["NOT"] (i.expr negation), do return (← sign) ++ (← i.expr product),
    do mark "~"; return "~" ++ (← i.expr sum), group i, named i]
  let fields ← parts
  let collation ← clause (after ["COLLATE"] (nameText <$> objectName))
  return content ++ fields ++ collation

def operatorText? : Token → Option String
  | .symbol s => some s
  | t => t.keyword?

/-- Equality and its opposite are printed in one way each. -/
def operatorPrinted : String → String
  | "==" => "="
  | "!=" => "<>"
  | op => op

/-- The side after a comparison may be a quantified group. -/
def binary (i : Inner) (above : Nat) : Reader Token String := do
  let op ← ofOption (operatorText? (← item))
  let strength ← ofOption (operators.lookup op)
  require (above < strength)
  let quantifier ← if strength == comparison then opt (keywordIn ["ANY", "ALL", "SOME"])
    else pure none
  let right ← match quantifier with
    | some q => (q ++ ·) <$> group i
    | none => i.expr strength
  return s!" {operatorPrinted op} {right}"

def negated (r : Reader Token String) : Reader Token String := do
  let no ← clause (words ["NOT"])
  return no ++ " " ++ (← r)

def isTest (i : Inner) : Reader Token String := do
  keyword "IS"
  return " IS" ++ (← negated (keywordIn ["NULL", "TRUE", "FALSE", "UNKNOWN"] <|>
    after ["DISTINCT", "FROM"] (full i)))

def inTest (i : Inner) : Reader Token String := negated (after ["IN"] (group i))

def betweenTest (i : Inner) : Reader Token String :=
  negated do
    let low ← after ["BETWEEN"] (i.expr comparison)
    let high ← after ["AND"] (i.expr comparison)
    return s!"{low} {high}"

def likeTest (i : Inner) : Reader Token String :=
  negated do
    let verb ← keywordIn ["LIKE", "ILIKE", "RLIKE", "REGEXP"] <|> words ["SIMILAR", "TO"]
    let any ← clause (words ["ANY"])
    let pattern ← i.expr likeness
    let escape ← clause (after ["ESCAPE"] value)
    return s!"{verb}{any} {pattern}{escape}"

def continuation (i : Inner) (above : Nat) : Reader Token String :=
  let when (strength : Nat) (r : Reader Token String) : Reader Token String :=
    if above < strength then r else failure
  firstOf [
    binary i above, when nullTest (isTest i), when comparison (inTest i),
    when comparison (betweenTest i), when likeness (likeTest i),
    when timeShift do return " " ++ (← after ["AT", "TIME", "ZONE"] (i.expr timeShift)),
    when castMark do mark "::"; return "::" ++ (← DataType.read).text]

def read (i : Inner) (above : Nat) : Reader Token String := do
  let first ← operand i
  return first ++ String.join (← many (continuation i above))

end Expression

end Scaffold.Ddl
