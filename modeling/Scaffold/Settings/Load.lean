import Scaffold.Files.Store
import Scaffold.Json.Reader
import Scaffold.Settings.Record
import Scaffold.Text.Replace
import Scaffold.Toml.Reader

/-! Settings from files and from environment variables. -/
namespace Scaffold

abbrev Environment := List (String × String)

namespace Settings

variable {m : Type → Type} [Monad m] [FileStore m]

def ofFileText (text : String) : Except Error Settings :=
  match (Toml.ofText? text).bind Toml.entries? with
  | none => .error (.settings .unreadable)
  | some es =>
    match ofEntries? .strict es with
    | none => .error (.settings .unreadable)
    | some s => .ok s

/-- A file in which every value has the type of its setting. -/
def ofFile (path : String) : ExceptT Error m Settings := do
  match ← (FileStore.read? path : m _) with
  | none => throw .file
  | some text => ofFileText text

inductive Format
  | toml
  | json

def formats : List (String × Format) := [("toml", .toml), ("json", .json)]

mutual

/-- A null is left out of what it stands in. -/
def ofJson? : Json → Option Toml
  | .null => none
  | .bool b => some (.boolean b)
  | .number n e =>
    some (if e = 0 then .integer n else .float (.ofDecimal (n < 0) n.natAbs e))
  | .string s => some (.string s)
  | .array items => some (.array (ofItems items))
  | .object ms => some (.table (ofMembers ms))

def ofItems : List Json → List Toml
  | [] => []
  | j :: js => (ofJson? j).toList ++ ofItems js

def ofMembers : List (String × Json) → List (String × Toml)
  | [] => []
  | (key, j) :: ms => ((ofJson? j).map (key, ·)).toList ++ ofMembers ms

end

def Format.entries? (f : Format) (text : String) : Option (List (String × Toml)) :=
  match f with
  | toml => (Toml.ofText? text).bind Toml.entries?
  | json =>
    match Json.ofChars? text.toList with
    | some (j, []) => (ofJson? j).bind Toml.entries?
    | _ => none

/-- A file of that name, else one with an extension added to it. A file whose extension is of no
format does not count. -/
def locate (path : String) : m (Option (Format × String)) := do
  match ← FileStore.read? path with
  | some text => return ((Path.extension? path).bind (formats.lookup ·)).map (·, text)
  | none =>
    for (extension, format) in formats do
      if let some text ← FileStore.read? (path ++ "." ++ extension) then
        return some (format, text)
    return none

def defaultName : String := "modelly-codegen"

/-- The entries of the named file, which has to be there, or of the file in the working folder, if
there is one. -/
def fileEntries (path? : Option String) : ExceptT Error m (List (String × Toml)) := do
  match ← (locate (path?.getD defaultName) : m _), path? with
  | some (format, text), _ =>
    match format.entries? text with
    | some es => return es
    | none => throw (.settings .unreadable)
  | none, some _ => throw (.settings .unreadable)
  | none, none => return []

/-- A truth value, an integer, another number or plain text, in this order. -/
def ofVariable (s : String) : Toml :=
  let word := Text.lower s
  if word == "true" then .boolean true
  else if word == "false" then .boolean false
  else
    match Numeral.integer? s, Numeral.float? s with
    | some n, _ => .integer n
    | none, some x => .float x
    | none, none => .string s

/-- Case does not matter in the names of variables. -/
def variablePrefix : String := "modelly_codegen_"

/-- The keys to a setting: two underscores lead into a table. -/
def variablePath? (name : String) : Option (List String) := do
  let rest ← Text.afterPattern? variablePrefix.toList (Text.lower name).toList
  let key := Text.replace "__" "." (String.ofList rest)
  let keys := Text.splitAt '.' key
  return if keys.contains "" then [key] else keys

/-- What is no table on the way is replaced by one. -/
def insertAt : List String → Toml → List (String × Toml) → List (String × Toml)
  | [], _, es => es
  | [key], v, es => (key, v) :: es.filter (·.1 != key)
  | key :: rest, v, es =>
    let inner := ((es.lookup key).bind Toml.entries?).getD []
    (key, .table (insertAt rest v inner)) :: es.filter (·.1 != key)

def withVariables (environment : Environment) (es : List (String × Toml)) :
    List (String × Toml) :=
  environment.foldl (fun es (name, value) =>
    match variablePath? name with
    | some keys => insertAt keys (ofVariable value) es
    | none => es) es

/-- Variables override what the file says. -/
def load (path? : Option String) (environment : Environment) : ExceptT Error m Settings := do
  let es ← fileEntries path?
  match ofEntries? .lenient (withVariables environment es) with
  | some s => return s
  | none => throw (.settings .unreadable)

end Settings

end Scaffold
