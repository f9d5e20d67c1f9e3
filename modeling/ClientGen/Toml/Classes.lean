/-!
Classes of characters that reading and writing TOML share.
-/

namespace ClientGen.Toml

/-- Not allowed in comments and strings. A line feed is one of them. -/
def isControl (c : Char) : Bool := (c.toNat < 0x20 && c ≠ '\t') || c.toNat == 0x7F

/-- May stand in a key without quotes. -/
def isBareKeyChar (c : Char) : Bool := c.isAlphanum || c == '-' || c == '_'

/-- Cannot stand in a number, a truth value or a time. -/
def endsScalar (c : Char) : Bool :=
  [' ', '\t', '\r', '\n', '#', '=', ',', '[', ']', '\x7b', '\x7d'].contains c

end ClientGen.Toml
