import Scaffold.Text.Blank

/-! Paths as texts: joining them and taking them apart. Nothing is normalized. -/
namespace Scaffold.Path

def isAbsolute (p : String) : Bool := p.toList.head? == some '/'

/-- An absolute path replaces what it is joined to. No separator is put after another one, nor at
the beginning. -/
def join (p q : String) : String :=
  if isAbsolute q then q
  else if p.isEmpty || p.toList.getLast? == some '/' then p ++ q
  else p ++ "/" ++ q

def segments (p : String) : List String := Text.splitAt '/' p

/-- Segment by segment below a folder. -/
def below (folder path : String) : String := (segments path).foldl join folder

/-- The last segment that is neither empty nor a single dot, unless it leads upwards. -/
def fileName? (p : String) : Option String :=
  ((segments p).filter fun s => s != "" && s != ".").getLast?.filter (· != "..")

/-- What follows the last dot of the file name; a dot at its beginning does not count. -/
def extension? (p : String) : Option String := do
  let cs := (← fileName? p).toList
  let suffix := (cs.reverse.takeWhile (· != '.')).reverse
  if suffix.length + 1 < cs.length then some (String.ofList suffix) else none

end Scaffold.Path
