import ClientGen.Json.Value
import ClientGen.Log.Event
import ClientGen.Json.Writer

/-!
The two forms of a log line, without the time in front of it. Control characters that a terminal
acts on are made visible in plain text.
-/

namespace ClientGen.Log

/-- Line feeds, carriage returns and tabs stay as they are. -/
def visible (c : Char) : List Char :=
  if c = '\x1b' ∨ c = '\x07' ∨ c = '\x08' ∨ c = '\x0c' ∨ c = '\x7f' then
    ['\\', 'x'] ++ Json.hexDigits 2 c.toNat
  else if 0x80 ≤ c.toNat ∧ c.toNat ≤ 0x9F then
    ['\\', 'u', '\x7b'] ++ Nat.toDigits 16 c.toNat ++ ['\x7d']
  else [c]

namespace Event

def padding (l : Level) : String := String.ofList (List.replicate (5 - l.name.length) ' ')

/-- Level, message, and the directory of an event that names one. -/
def plain (e : Event) : String :=
  let message := String.ofList (e.message.toList.flatMap visible)
  let place := match e.cwd with
    | some p => " cwd=" ++ p.text
    | none => ""
  padding e.level ++ e.level.name ++ " " ++ message ++ place

def json (e : Event) : Json :=
  .object [
    ("level", .string e.level.name),
    ("fields", .object (("message", .string e.message) :: (match e.cwd with
      | some p => [("cwd", .string p.text)]
      | none => []))),
    ("target", .string e.source.target)]

end Event

end ClientGen.Log
