import ClientGen.Decimal.Binary64

/-!
JSON values. Whole numbers that fit 64 bits are integers; every other number is binary64. Objects
keep their members in the order they were written.
-/

namespace ClientGen

inductive Json where
  | null
  | boolean (b : Bool)
  | integer (n : Int)
  | float (x : Decimal.Binary64)
  | string (s : String)
  | array (items : List Json)
  | object (members : List (String × Json))
  deriving Inhabited

namespace Json

def texts (ss : List String) : Json := .array (ss.map .string)

def member? (name : String) : Json → Option Json
  | .object members => members.lookup name
  | _ => none

end Json

end ClientGen
