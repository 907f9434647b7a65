import Scaffold.Decimal.FloatValue

/-! TOML values. -/
namespace Scaffold

/-- Dates and times stay as they are written. -/
inductive Toml
  | string (value : String)
  | integer (value : Int)
  | float (value : FloatValue)
  | boolean (value : Bool)
  | dateTime (text : String)
  | array (items : List Toml)
  | table (entries : List (String × Toml))

def Toml.entries? : Toml → Option (List (String × Toml))
  | table es => some es
  | _ => none

end Scaffold
