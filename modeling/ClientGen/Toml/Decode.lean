import ClientGen.Decode
import ClientGen.Path
import ClientGen.Text.Dictionary
import ClientGen.Toml.Value

/-!
Turning TOML values into texts, paths, numbers and truth values. A number that no machine number
holds is an error of its own wherever it stands, also under a name that nobody asks for.
-/

namespace ClientGen.Toml

abbrev Decoder (α : Type) := Value → Except DecodeError α

/-- A date or time that is looked into has one entry under this name. -/
def datetimeKey : String := "$__toml_private_datetime"

/-- The entries of a value that has some. -/
def Value.entries? : Value → Option Entries
  | .table _ es => some es
  | .datetime text => some [(datetimeKey, .string text)]
  | _ => none

/-- The items of a value that has some. -/
def Value.items? : Value → Option (List Value)
  | .array vs => some vs
  | .tables earlier last => some ((earlier ++ [last]).map (.table .header))
  | _ => none

/-- Why a value cannot stand where `wanted` does. -/
def Value.mismatch (wanted : String) : Value → DecodeError
  | .string s => .wrongType (.string s) wanted
  | .boolean b => .wrongType (.boolean b) wanted
  | .integer none => .integerOverflow
  | .integer (some n) =>
    if -Int.pow 2 127 ≤ n ∧ n < Int.pow 2 128 then .wrongType (.integer n) wanted
    else .integerOverflow
  | .float (some x) => .wrongType (.float x) wanted
  | .float none => .floatOverflow
  | .array _ | .tables .. => .wrongType .sequence wanted
  | .table .. | .datetime _ => .wrongType .map wanted

def asText : Decoder String
  | .string s => .ok s
  | v => .error (v.mismatch "a string")

def asPath : Decoder Path
  | .string s => .ok ⟨s⟩
  | v => .error (v.mismatch "path string")

def asTruth : Decoder Bool
  | .boolean b => .ok b
  | v => .error (v.mismatch "a boolean")

def asWord : Decoder UInt64
  | .integer (some n) =>
    if 0 ≤ n ∧ n < UInt64.size then .ok n.toNat.toUInt64
    else if -Int.pow 2 63 ≤ n ∧ n < 0 then .error (.wrongValue (.integer n) "u64")
    else .error (Value.mismatch "u64" (.integer (some n)))
  | v => .error (v.mismatch "u64")

def asDocument (v : Value) : Except DecodeError Document := do
  (Document.parse (← asText v)).mapError .document

def asList {α : Type} (decode : Decoder α) (v : Value) : Except DecodeError (List α) :=
  match v.items? with
  | some vs => vs.mapM decode
  | none => .error (v.mismatch "a sequence")

/-- Entries in byte order of their keys. -/
def sorted {α : Type} (es : List (String × α)) : List (String × α) :=
  (Text.Dictionary.ofList es).entries

def inKeyOrder (es : List (String × List Value)) : List Value := (sorted es).flatMap (·.2)

def asProperties (v : Value) : Except DecodeError (Text.Dictionary String) :=
  match v.entries? with
  | some es => do
    let pairs ← (sorted es).mapM fun (k, v) => do pure (k, ← asText v)
    pure (.ofList pairs)
  | none => .error (v.mismatch "a map")

mutual

/-- Every number in a value that nobody asks for, tables in the order of their keys. -/
def numbers : Value → List Value
  | .integer n => [.integer n]
  | .float x => [.float x]
  | .array vs => numbersOfItems vs
  | .table _ es => inKeyOrder (numbersOfEntries es)
  | .tables earlier last => numbersOfTables earlier ++ inKeyOrder (numbersOfEntries last)
  | _ => []

def numbersOfItems : List Value → List Value
  | [] => []
  | v :: vs => numbers v ++ numbersOfItems vs

def numbersOfEntries : List (String × Value) → List (String × List Value)
  | [] => []
  | (k, v) :: es => (k, numbers v) :: numbersOfEntries es

def numbersOfTables : List (List (String × Value)) → List Value
  | [] => []
  | es :: tables => inKeyOrder (numbersOfEntries es) ++ numbersOfTables tables

end

/-- Passes over a value; only a number that no machine number holds is an error. -/
def skip (v : Value) : Except DecodeError Unit :=
  (numbers v).forM fun n => match n.mismatch "" with
    | .integerOverflow => .error .integerOverflow
    | .floatOverflow => .error .floatOverflow
    | _ => .ok ()

end ClientGen.Toml
