import ClientGen.Decimal.Binary64

/-!
TOML values and tables. A table remembers how it came about, because that decides what may still be
added to it.
-/

namespace ClientGen.Toml

/-- How a table came about. -/
inductive Origin where
  /-- Written as `[name]`. -/
  | header
  /-- Passed through by a longer header. -/
  | implied
  /-- Passed through by a dotted key. -/
  | dotted
  /-- Written between braces; closed for good. -/
  | braces
  deriving DecidableEq

inductive Value where
  | string (s : String)
  /-- `none` is written like a number and has no value. -/
  | integer (n : Option Int)
  /-- `none` is a number too large for binary64. -/
  | float (x : Option Decimal.Binary64)
  | boolean (b : Bool)
  /-- In its canonical spelling. -/
  | datetime (text : String)
  | array (items : List Value)
  | table (origin : Origin) (entries : List (String × Value))
  /-- Tables that each started with `[[name]]`; the last is the one that is still open. -/
  | tables (earlier : List (List (String × Value))) (last : List (String × Value))
  deriving Inhabited

abbrev Entries := List (String × Value)

end ClientGen.Toml
