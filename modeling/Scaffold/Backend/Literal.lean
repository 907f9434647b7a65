/-! String literals of the backend. -/
namespace Scaffold.Backend

def escapeChar : Char → List Char
  | '\\' => ['\\', '\\']
  | '"' => ['\\', '"']
  | c => [c]

/-- Only the backslash and the quote are escaped. -/
def literal (s : String) : String :=
  "\"" ++ String.ofList (s.toList.flatMap escapeChar) ++ "\""

end Scaffold.Backend
