/-! JSON values. -/
namespace Scaffold

/-- A number is `mantissa · 10 ^ exponent`. Objects keep the order of their members, and repeated
names. -/
inductive Json
  | null
  | bool (value : Bool)
  | number (mantissa exponent : Int)
  | string (value : String)
  | array (items : List Json)
  | object (members : List (String × Json))

end Scaffold
