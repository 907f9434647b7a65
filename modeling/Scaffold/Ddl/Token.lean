import Scaffold.Text.Blank
import Scaffold.Text.Digits
import Scaffold.Text.Reader

/-! Lexical structure of SQL scripts. -/
namespace Scaffold.Ddl

open Reader

/-- Words in quotes keep the opening one. Numbers stay as they are written, the letter of a long
one apart. -/
inductive Token
  | word (text : String) (quote : Option Char)
  | number (text : String) (long : Bool)
  | string (text : String)
  | national (text : String)
  | binary (digits : String)
  | symbol (text : String)
deriving DecidableEq

def Token.isWord : Token → Bool
  | word _ _ => true
  | _ => false

namespace Lexeme

def isWordStart (c : Char) : Bool := Text.isAlphabetic c || c == '_'

def isWordPart (c : Char) : Bool :=
  Text.isAlphabetic c || Text.isAsciiDigit c || ['_', '@', '$', '#'].contains c

/-- The text up to a closing character. Written twice, that character stands for itself. -/
def quotedText (close : Char) : Reader Char String := do
  let cs ← many (sat (· != close) <|> exactly [close, close] *> pure close)
  one close
  return String.ofList cs

/-- What follows the end of a block comment, `outer` others being open around it. -/
def afterComment? (outer : Nat) : List Char → Option (List Char)
  | [] => none
  | '/' :: '*' :: cs => afterComment? (outer + 1) cs
  | '*' :: '/' :: cs =>
    match outer with
    | 0 => some cs
    | outer + 1 => afterComment? outer cs
  | _ :: cs => afterComment? outer cs

def blockComment : Reader Char Unit := do
  exactly ['/', '*']
  fun cs => (afterComment? 0 cs).map ((), ·)

def lineComment : Reader Char Unit := exactly ['-', '-'] *> skipWhile (· != '\n')

def trivia : Reader Char Unit :=
  firstOf [discard (takeWhile1 Text.isBlank), lineComment, blockComment]

/-- `#` and `@` make a word together with any one character after them, and `@@` likewise. -/
def markedWordStart : Reader Char (List Char) := do
  let mark ← sat fun c => c == '#' || c == '@'
  let again ← if mark == '@' then accepts (one '@') else pure false
  let next ← item
  require !(if mark == '#' then ['-', '>', ' '] else ['>', '?', ' ', '\'', '"']).contains next
  return if again then [mark, '@', next] else [mark, next]

/-- A period before an underscore is read together with the word in front of it. -/
def word : Reader Char (List Token) := do
  let start ← (do return [← sat isWordStart]) <|> markedWordStart
  let rest ← takeWhile isWordPart
  return [.word (String.ofList (start ++ rest)) none]

def quotedWord : Reader Char (List Token) := do
  let quote ← sat fun c => c == '[' || c == '"'
  return [.word (← quotedText (if quote == '[' then ']' else quote)) (some quote)]

def exponent : Reader Char (List Char) := do
  let e ← sat fun c => c == 'e' || c == 'E'
  let sign ← opt (sat fun c => c == '+' || c == '-')
  let digits ← takeWhile1 Text.isAsciiDigit
  return e :: sign.toList ++ digits

/-- A period on its own is a symbol. -/
def numeral : Reader Char (List Token) := do
  let digits ← takeWhile Text.isAsciiDigit
  let point ← accepts (one '.')
  let places ← if point then takeWhile Text.isAsciiDigit else pure []
  if digits.isEmpty && places.isEmpty then
    require (point && (← peek?) != some '_')
    return [.symbol "."]
  else
    let e := (← opt exponent).getD []
    let long ← accepts (one 'L')
    return [.number (String.ofList (digits ++ (if point then ['.'] else []) ++ places ++ e)) long]

def prefixed (letters : List Char) (make : String → Token) : Reader Char (List Token) := do
  let _ ← sat letters.contains
  one '\''
  return [make (← quotedText '\'')]

def literal : Reader Char (List Token) := firstOf [
  prefixed ['N', 'n'] .national,
  prefixed ['X', 'x'] .binary,
  do one '\''; return [.string (← quotedText '\'')],
  do exactly ['0', 'x']; return [.binary (String.ofList (← takeWhile (Text.isDigit 16)))]]

def longSymbols : List String :=
  ["<=", ">=", "<>", "!=", "==", "=>", "||", "&&", "::", ":=", "<<", ">>", "->"]

def symbol : Reader Char (List Token) :=
  firstOf (longSymbols.map fun s => exactly s.toList *> pure [.symbol s]) <|>
    do return [.symbol (String.singleton (← item))]

/-- The tokens at the front of the text; blanks and comments give none. -/
def next : Reader Char (List Token) := do
  if ← accepts trivia then return []
  else
    let first ← peek?
    let ts ←
      match first with
      | some '/' => require ((← get).take 2 != ['/', '*']) *> symbol
      | some '[' | some '"' => quotedWord
      | some '\'' => literal
      | _ => firstOf [literal, word, numeral, require (first != some '.') *> symbol]
    if ts.any Token.isWord && (← ahead (exactly ['.', '_'])) then
      one '.'
      return ts ++ [.symbol "."]
    else return ts

end Lexeme

/-- Nothing if a comment, a string or a quoted word does not end. -/
def Token.ofText? (s : String) : Option (List Token) :=
  (whole? (many Lexeme.next) s.toList).map List.flatten

end Scaffold.Ddl
