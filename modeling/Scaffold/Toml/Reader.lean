import Scaffold.Text.Digits
import Scaffold.Text.Reader
import Scaffold.Toml.Tree

/-! Reading of TOML documents. -/
namespace Scaffold.Toml

open Reader

def isSpace (c : Char) : Bool := c == ' ' || c == '\t'

def spaces : Reader Char Unit := skipWhile isSpace

def newline : Reader Char Unit := exactly ['\n'] <|> exactly ['\r', '\n']

/-- Control characters, the tab apart, do not occur in a document. -/
def isControl (c : Char) : Bool := (c.toNat < 0x20 && c != '\t') || c.toNat == 0x7F

def comment : Reader Char Unit := one '#' *> skipWhile (!isControl ·)

/-- What may stand between the elements of an array. -/
def gaps : Reader Char Unit :=
  discard (many (firstOf [discard (takeWhile1 isSpace), newline, comment]))

def codePoint (digits : Nat) : Reader Char Char := do
  let ds ← (List.replicate digits ()).mapM fun _ => sat (Text.isDigit 16)
  let n := Text.ofDigits 16 ds
  require (n < 0xD800 || (0xE000 ≤ n && n < 0x110000))
  return Char.ofNat n

def escapes : List (Char × Char) := [
  ('b', '\x08'), ('t', '\t'), ('n', '\n'), ('f', '\x0c'), ('r', '\r'), ('"', '"'), ('\\', '\\')]

def escape : Reader Char Char := do
  one '\\'
  match ← item with
  | 'u' => codePoint 4
  | 'U' => codePoint 8
  | c => ofOption (escapes.lookup c)

def plain (refused : List Char) : Reader Char Char :=
  sat fun c => !isControl c && !refused.contains c

def basic : Reader Char String := do
  one '"'
  let cs ← many (escape <|> plain ['"', '\\'])
  one '"'
  return String.ofList cs

def literal : Reader Char String := do
  one '\''
  let cs ← many (plain ['\''])
  one '\''
  return String.ofList cs

/-- A backslash at the end of a line, with the blanks that follow up to the next text. -/
def continuation : Reader Char (List Char) := do
  one '\\'
  spaces
  newline
  discard (many (discard (takeWhile1 isSpace) <|> newline))
  return []

/-- One or two quotes that do not belong to the closing three. -/
def innerQuotes (quote : Char) : Reader Char (List Char) := do
  let quotes ← takeWhile (· == quote)
  let n := quotes.length
  if n < 3 then
    require (0 < n)
    return quotes
  else
    require (3 < n && n < 6)
    modify (List.replicate 3 quote ++ ·)
    return quotes.drop 3

/-- A line break right after the opening is left out. -/
def multiline (quote : Char) (special : Reader Char (List Char)) : Reader Char String := do
  exactly [quote, quote, quote]
  discard (opt newline)
  let parts ← many (firstOf [
    special, newline *> pure ['\n'], innerQuotes quote, (fun c => [c]) <$> plain [quote, '\\']])
  exactly [quote, quote, quote]
  return String.ofList parts.flatten

def text : Reader Char String := firstOf [
  multiline '"' (continuation <|> (fun c => [c]) <$> escape),
  multiline '\'' (one '\\' *> pure ['\\']), basic, literal]

def isBare (c : Char) : Bool :=
  Text.isAsciiLower c || Text.isAsciiUpper c || Text.isAsciiDigit c || c == '-' || c == '_'

def simpleKey : Reader Char String :=
  firstOf [String.ofList <$> takeWhile1 isBare, basic, literal]

def key : Reader Char (List String) := sepBy1 (spaces *> one '.' *> spaces) simpleKey

/-- Digits with single underscores between them. -/
def digits (base : Nat) : Reader Char (List Char) := do
  let first ← sat (Text.isDigit base)
  return first :: (← many (opt (one '_') *> sat (Text.isDigit base)))

def isNegative : Reader Char Bool := do
  return (← opt (sat fun c => c == '+' || c == '-')) == some '-'

/-- Without leading zeros. -/
def wholePart : Reader Char (List Char) := do
  let ds ← digits 10
  require (ds.length == 1 || ds.head? != some '0')
  return ds

def based (base : Nat) (mark : Char) : Reader Char Nat := do
  exactly ['0', mark]
  return Text.ofDigits base (← digits base)

/-- Within sixty-four bits. -/
def integerValue : Reader Char Toml := do
  let n ← firstOf [
    Int.ofNat <$> based 16 'x', Int.ofNat <$> based 8 'o', Int.ofNat <$> based 2 'b',
    do
      let negative ← isNegative
      let n := Text.ofDigits 10 (← wholePart)
      return if negative then -(n : Int) else n]
  require (Text.isSignedWord n)
  return .integer n

def exponent : Reader Char Int := do
  let _ ← sat fun c => c == 'e' || c == 'E'
  let negative ← isNegative
  let n := Text.ofDigits 10 (← digits 10)
  return if negative then -(n : Int) else n

/-- A number beyond the range of a double is refused. -/
def floatValue : Reader Char Toml := do
  let negative ← isNegative
  let special := exactly ['i', 'n', 'f'] *> pure (FloatValue.infinite negative) <|>
    exactly ['n', 'a', 'n'] *> pure .notANumber
  let number : Reader Char FloatValue := do
    let whole ← wholePart
    let places ← whenOne '.' (digits 10)
    let e ← opt exponent
    require (places.isSome || e.isSome)
    let ds := whole ++ places.getD []
    let d ← ofOption (Double.ofDecimal? (Text.ofDigits 10 ds)
      (e.getD 0 - (places.getD []).length))
    return .finite negative d
  return .float (← special <|> number)

def count (n : Nat) : Reader Char Nat := do
  return Text.ofDigits 10 (← (List.replicate n ()).mapM fun _ => sat Text.isAsciiDigit)

def isLeap (year : Nat) : Bool := year % 4 == 0 && (year % 100 != 0 || year % 400 == 0)

def monthDays (year month : Nat) : Nat :=
  if month == 2 then if isLeap year then 29 else 28
  else if [4, 6, 9, 11].contains month then 30
  else 31

def date : Reader Char Unit := do
  let year ← count 4
  one '-'
  let month ← count 2
  one '-'
  let day ← count 2
  require (1 ≤ month && month ≤ 12 && 1 ≤ day && day ≤ monthDays year month)

def hourMinute : Reader Char Unit := do
  let hour ← count 2
  one ':'
  let minute ← count 2
  require (hour < 24 && minute < 60)

def time : Reader Char Unit := do
  hourMinute
  one ':'
  let second ← count 2
  require (second ≤ 60)
  discard (whenOne '.' (takeWhile1 Text.isAsciiDigit))

def offset : Reader Char Unit :=
  discard (sat fun c => c == 'Z' || c == 'z') <|>
    discard (sat fun c => c == '+' || c == '-') *> hourMinute

/-- The symbols that the reader takes. -/
def taken (r : Reader Char Unit) : Reader Char String := do
  let start ← get
  r
  return String.ofList (start.take (start.length - (← get).length))

def dateTimeValue : Reader Char Toml := .dateTime <$> taken (time <|> do
  date
  discard (opt (sat (fun c => ['T', 't', ' '].contains c) *> time *> opt offset)))

def booleanValue : Reader Char Toml := firstOf [
  exactly "true".toList *> pure (.boolean true), exactly "false".toList *> pure (.boolean false)]

def scalar : Reader Char Toml := firstOf [
  .string <$> text, dateTimeValue, floatValue, integerValue, booleanValue]

/-- Arrays and inline tables within one another, up to the given depth. -/
def value : Nat → Reader Char Toml
  | 0 => scalar
  | depth + 1 =>
    let assignment : Reader Char (List String × Toml) := do
      spaces
      let path ← key
      spaces *> one '=' *> spaces
      return (path, ← value depth <* spaces)
    let array : Reader Char Toml := do
      one '['
      let items ← sepBy (one ',') (gaps *> value depth <* gaps)
      discard (opt (one ','))
      gaps
      one ']'
      return .array items
    let inline : Reader Char Toml := do
      one '\x7b'
      let assignments ← sepBy (one ',') assignment
      spaces
      one '\x7d'
      let es ← ofOption (assignments.foldlM (fun es (path, v) => Tree.assign path v es) [])
      return .table (Tree.entriesToToml es)
    firstOf [scalar, array, inline]

def maxDepth : Nat := 80

def statement : Reader Char Statement := firstOf [
  .array <$> (exactly ['[', '['] *> spaces *> key <* spaces <* exactly [']', ']']),
  .table <$> (one '[' *> spaces *> key <* spaces <* one ']'),
  do
    let path ← key
    spaces *> one '=' *> spaces
    return .assign path (← value maxDepth)]

/-- A statement, a comment or both, or nothing. -/
def line : Reader Char (Option Statement) := spaces *> opt statement <* spaces <* opt comment

/-- A byte order mark at the beginning is passed over. -/
def lines : Reader Char (List (Option Statement)) :=
  opt (one '\ufeff') *> sepBy1 newline line

/-- Nothing if the document is malformed or defines something twice. -/
def ofText? (s : String) : Option Toml := do
  ofStatements? ((← whole? lines s.toList).filterMap id)

end Scaffold.Toml
