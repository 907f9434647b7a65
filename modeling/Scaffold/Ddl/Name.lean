import Scaffold.Ddl.Token

/-! Key words, identifiers and dotted names. -/
namespace Scaffold.Ddl

open Reader

structure Ident where
  value : String
  quote : Option Char := none
deriving DecidableEq

/-- A quote inside is doubled unless it stands behind a backslash or next to another one. -/
def escapedQuotes (quote previous : Char) : List Char → List Char
  | [] => []
  | c :: cs =>
    if c != quote then c :: escapedQuotes quote c cs
    else if previous == '\\' then c :: escapedQuotes quote previous cs
    else
      match cs with
      | [] => [c, c]
      | d :: ds =>
        if d == quote then c :: d :: escapedQuotes quote c ds
        else c :: c :: escapedQuotes quote c (d :: ds)

namespace Ident

/-- Square brackets are put back as they are. -/
def text (i : Ident) : String :=
  match i.quote with
  | none => i.value
  | some '[' => "[" ++ i.value ++ "]"
  | some q => String.ofList (q :: escapedQuotes q '\x00' i.value.toList ++ [q])

end Ident

/-- The key word that the token spells, in any case and without quotes. -/
def Token.keyword? : Token → Option String
  | word text none => some (Text.upper text)
  | _ => none

def keyword (k : String) : Reader Token Unit := discard (sat (·.keyword? == some k))

def keywordIn (ks : List String) : Reader Token String := do
  let t ← item
  let k ← ofOption t.keyword?
  require (ks.contains k)
  return k

/-- The key words in turn. -/
def phrase (ks : List String) : Reader Token Unit := ks.forM keyword

def mark (s : String) : Reader Token Unit := one (.symbol s)

def parens {α : Type} (r : Reader Token α) : Reader Token α := mark "(" *> r <* mark ")"

/-- The text of an optional clause, behind a blank. -/
def clause (r : Reader Token String) : Reader Token String := do
  return (← opt r).elim "" (" " ++ ·)

def commaList {α : Type} (r : Reader Token α) : Reader Token (List α) := sepBy1 (mark ",") r

def anyWord : Reader Token Ident := do
  match ← item with
  | .word text quote => return ⟨text, quote⟩
  | _ => failure

def stringValue : Reader Token String := do
  match ← item with
  | .string s => return s
  | _ => failure

/-- A word or a string. -/
def identifier : Reader Token Ident := do
  match ← item with
  | .word text quote => return ⟨text, quote⟩
  | .string s => return ⟨s, some '\''⟩
  | _ => failure

/-- Parts with periods between; only the second one may be empty. -/
def objectName : Reader Token (List Ident) := do
  let first ← identifier
  if ← accepts (mark "." *> mark ".") then
    return first :: ⟨"", none⟩ :: (← sepBy1 (mark ".") identifier)
  else return first :: (← many (mark "." *> identifier))

def nameText (parts : List Ident) : String := ".".intercalate (parts.map Ident.text)

end Scaffold.Ddl
