import Scaffold.Decimal.Double
import Scaffold.Json.Basic
import Scaffold.Text.Digits
import Scaffold.Text.Reader

/-! Strict reading of JSON text. -/
namespace Scaffold.Json

open Reader

def isSpace (c : Char) : Bool := c == ' ' || c == '\t' || c == '\n' || c == '\r'

def spaces : Reader Char Unit := skipWhile isSpace

def token (r : Reader Char α) : Reader Char α := r <* spaces

def punctuation (c : Char) : Reader Char Unit := token (one c)

/-- Four hexadecimal digits. -/
def codeUnit : Reader Char Nat := do
  let ds ← [(), (), (), ()].mapM fun _ => sat (Text.isDigit 16)
  return Text.ofDigits 16 ds

/-- A code unit, or two that form a surrogate pair; a surrogate on its own is refused. -/
def codePoint : Reader Char Char := do
  let unit ← codeUnit
  if 0xD800 ≤ unit && unit < 0xDC00 then
    exactly ['\\', 'u']
    let low ← codeUnit
    require (0xDC00 ≤ low && low < 0xE000)
    return Char.ofNat (0x10000 + (unit - 0xD800) * 0x400 + (low - 0xDC00))
  else
    require (!(0xDC00 ≤ unit && unit < 0xE000))
    return Char.ofNat unit

def escapes : List (Char × Char) := [
  ('"', '"'), ('\\', '\\'), ('/', '/'), ('b', '\x08'), ('f', '\x0c'), ('n', '\n'), ('r', '\r'),
  ('t', '\t')]

def escape : Reader Char Char := do
  let c ← item
  if c == 'u' then codePoint else ofOption (escapes.lookup c)

/-- Control characters have to be escaped. -/
def stringChar : Reader Char Char := do
  let c ← sat fun c => c != '"' && c.toNat ≥ 0x20
  if c == '\\' then escape else return c

def text : Reader Char String := do
  one '"'
  let cs ← many stringChar
  one '"'
  return String.ofList cs

/-- No digit follows a leading zero. -/
def integerPart : Reader Char (List Char) :=
  one '0' *> pure ['0'] <|> takeWhile1 Text.isAsciiDigit

def exponentPart : Reader Char Int := do
  let _ ← sat fun c => c == 'e' || c == 'E'
  let sign ← opt (sat fun c => c == '+' || c == '-')
  let n := Text.ofDigits 10 (← takeWhile1 Text.isAsciiDigit)
  return if sign == some '-' then -(n : Int) else n

/-- Refuses a number beyond the range of a double. -/
def numeral : Reader Char Json := do
  let negative ← accepts (one '-')
  let whole ← integerPart
  let fraction ← whenOne '.' (takeWhile1 Text.isAsciiDigit)
  let exponent := (← opt exponentPart).getD 0
  let places := fraction.getD []
  let n := Text.ofDigits 10 (whole ++ places)
  let e := exponent - places.length
  require (Double.ofDecimal? n e).isSome
  return .number (if negative then -(n : Int) else n) e

def literal (word : String) (j : Json) : Reader Char Json := exactly word.toList *> pure j

def scalar : Reader Char Json :=
  firstOf [.string <$> text, numeral, literal "null" .null, literal "true" (.bool true),
    literal "false" (.bool false)]

/-- Arrays and objects within one another, up to the given depth. -/
def nested (depth : Nat) : Reader Char Json :=
  token scalar <|>
    match depth with
    | 0 => failure
    | depth + 1 =>
      let member : Reader Char (String × Json) := do
        let name ← token text
        punctuation ':'
        return (name, ← nested depth)
      .array <$> (punctuation '[' *> sepBy (punctuation ',') (nested depth) <* punctuation ']') <|>
        .object <$> (punctuation '\x7b' *> sepBy (punctuation ',') member <* punctuation '\x7d')

def maxDepth : Nat := 127

/-- The value at the beginning of the text, and the text after it. -/
def ofChars? (cs : List Char) : Option (Json × List Char) := (spaces *> nested maxDepth).run cs

end Scaffold.Json
