import ClientGen.Decimal.Binary64
import ClientGen.Document
import ClientGen.Text.Printable

/-!
Errors of turning a generic value, read from TOML or JSON, into one of the program's own types.
-/

namespace ClientGen

/-- A generic value as an error names it. -/
inductive Found where
  | null
  | boolean (b : Bool)
  | integer (n : Int)
  | float (x : Decimal.Binary64)
  | string (s : String)
  | sequence
  | map
  deriving DecidableEq

/-- An integer that 64 bits cannot hold is named with the width it needs. -/
def Found.integerText (n : Int) : String :=
  if -Int.pow 2 63 ≤ n ∧ n < UInt64.size then s!"integer `{n}`"
  else if n < Int.pow 2 127 then s!"integer `{n}` as i128"
  else s!"integer `{n}` as u128"

def Found.text : Found → String
  | .null => "null"
  | .boolean b => s!"boolean `{b}`"
  | .integer n => integerText n
  | .float x => s!"floating point `{x.text}`"
  | .string s => s!"string {Text.inQuotes s}"
  | .sequence => "sequence"
  | .map => "map"

inductive DecodeError where
  | wrongType (found : Found) (wanted : String)
  | wrongValue (found : Found) (wanted : String)
  | missingField (name : String)
  | wrongLength (found : Nat) (wanted : String)
  | document (cause : DocumentError)
  | integerOverflow
  | floatOverflow
  deriving DecidableEq

def DecodeError.message : DecodeError → String
  | .wrongType found wanted => s!"invalid type: {found.text}, expected {wanted}"
  | .wrongValue found wanted => s!"invalid value: {found.text}, expected {wanted}"
  | .missingField name => s!"missing field `{name}`"
  | .wrongLength found wanted => s!"invalid length {found}, expected {wanted}"
  | .document cause => cause.message
  | .integerOverflow => "integer number overflowed"
  | .floatOverflow => "floating-point number overflowed"

end ClientGen
