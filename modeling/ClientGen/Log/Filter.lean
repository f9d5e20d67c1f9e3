import ClientGen.Log.Event
import ClientGen.Log.Pattern
import ClientGen.Text.Alphanumeric
import ClientGen.Text.Blank
import ClientGen.Json.Reader

/-!
Filters: which events are shown. A filter is a list of directives with commas between; of those that
match an event the one with the longest target decides, and without a match the event is not shown.
-/

namespace ClientGen.Log

/-- The loudest level that is shown; `none` shows nothing. -/
abbrev Threshold := Option Level

structure Directive where
  /-- What an event's target must start with. -/
  target : Option String
  /-- A directive for a span never shows an event outside one, and no event is inside one. -/
  span : Option String
  /-- Fields an event must have, each with the value it must have, if any. -/
  fields : List (String × Option String)
  threshold : Threshold

structure Filter where
  directives : List Directive

namespace Filter

def levelWords : List (String × Threshold) :=
  [("off", none), ("error", some .error), ("warn", some .warn), ("info", some .info),
   ("debug", some .debug), ("trace", some .trace)]

def levelNumbers : List Threshold :=
  [none, some .error, some .warn, some .info, some .debug, some .trace]

def dropPlus : List Char → List Char
  | '+' :: rest => rest
  | cs => cs

/-- A level by name, in any case, or by number. -/
def threshold? (cs : List Char) : Option Threshold :=
  match levelWords.lookup (String.ofList (cs.map Char.toLower)) with
  | some t => some t
  | none =>
    let ds := dropPlus cs
    if ds.isEmpty || !ds.all Char.isDigit then none else levelNumbers[Json.digitsValue ds]?

/-- Nothing stands for every level. -/
def thresholdOrAll? (cs : List Char) : Option Threshold :=
  if cs = [] then some (some .trace) else threshold? cs

/-- Digits with a point among them or not. -/
def isDecimal (cs : List Char) : Bool :=
  cs.any Char.isDigit && cs.all (fun c => c.isDigit || c == '.') && cs.count '.' ≤ 1

/-- A number, or a word for one that is infinite or none. -/
def isNumber (cs : List Char) : Bool :=
  let body := if cs.head? = some '-' then cs.drop 1 else dropPlus cs
  let word := String.ofList (body.map Char.toLower)
  let mantissa := body.takeWhile fun c => c ≠ 'e' && c ≠ 'E'
  let exponent := body.drop mantissa.length
  let digits := match exponent.drop 1 with
    | '-' :: rest => rest
    | rest => dropPlus rest
  ["inf", "infinity", "nan"].contains word ||
    (isDecimal mantissa && (exponent.isEmpty || (!digits.isEmpty && digits.all Char.isDigit)))

/-- A field's name and the value it must have; what follows a second `=` does not count. -/
def field? (cs : List Char) : Option (String × Option String) :=
  match cs.splitOn '=' with
  | name :: value :: _ =>
    if isNumber value || Pattern.isWellFormed value then
      some (String.ofList name, some (String.ofList value))
    else none
  | _ => if cs = [] then none else some (String.ofList cs, none)

/-- What is being read of a directive, with the offset it starts at. -/
inductive Stage where
  | start
  | word (first : Nat)
  | span (first : Nat)
  | field (first : Nat)
  | fields
  | target
  | level (first : Nat)

/-- A character with the offset of its first byte in a text. -/
abbrev Placed := Nat × Char

def placed (offset : Nat) : List Char → List Placed
  | [] => []
  | c :: rest => (offset, c) :: placed (offset + c.utf8Size) rest

/-- The characters that start at an offset from `first` to before `last`. -/
def slice (text : List Placed) (first last : Nat) : List Char :=
  (text.filter fun (i, _) => first ≤ i && i < last).map (·.2)

def startsTarget (c : Char) : Bool :=
  c == '-' || c == ':' || c == '_' || Text.isAlphanumeric c

/-- Reads one character, which stands at offset `i`; `text` is what parts are cut from. -/
def advance (text : List Placed) (d : Directive) (stage : Stage) (i : Nat) (c : Char) :
    Option (Directive × Stage) :=
  let cut (first : Nat) := String.ofList (slice text first i)
  match stage with
  | .start =>
    if c = '[' then some (d, .span (i + 1))
    else if startsTarget c then some (d, .word i)
    else none
  | .word first =>
    if c = '=' then some ({ d with target := some (cut first) }, .level (i + 1))
    else if c = '[' then some ({ d with target := some (cut first) }, .span (i + 1))
    else some (d, .word first)
  | .span first =>
    if c = ']' then some ({ d with span := some (cut first) }, .target)
    else if c = '\x7b' then
      let name := cut first
      some ({ d with span := if name = "" then none else some name }, .field (i + 1))
    else some (d, .span first)
  | .field first =>
    if c = '\x7d' then
      (field? (slice text first i)).map fun f => ({ d with fields := d.fields ++ [f] }, .fields)
    else some (d, .field first)
  | .fields => if c = ']' then some (d, .target) else none
  | .target => if c = '=' then some (d, .level (i + 1)) else none
  | .level first => some (d, .level first)

/-- What a directive is once its text has ended. -/
def finish? (text : List Placed) (last : Nat) (d : Directive) : Stage → Option Directive
  | .word first =>
    let cs := slice text first last
    match thresholdOrAll? cs with
    | some t => some { d with threshold := t }
    | none => some { d with target := some (String.ofList cs) }
  | .level first => (thresholdOrAll? (slice text first last)).map fun t => { d with threshold := t }
  | .target => some d
  | _ => none

/--
Reads a directive. Blanks at the ends are not read, but offsets are counted from the first character
that is, and the parts between them are cut from the whole text.
-/
def directive? (cs : List Char) : Option Directive := do
  let text := placed 0 cs
  let bytes := (String.ofList cs).utf8ByteSize
  let read := placed 0 (Text.trim cs)
  let everything : Directive := ⟨none, none, [], some .trace⟩
  let (d, stage) ← read.foldlM (fun (d, stage) (i, c) => advance text d stage i c)
    (everything, Stage.start)
  finish? text bytes d stage

def parse? (text : String) : Option Filter :=
  let parts := (text.toList.splitOn ',').filter (· ≠ [])
  (parts.mapM directive?).map Filter.mk

/-- The filter in force: the environment's, if set and well formed, else the configured one. -/
def choose? (environment : Option String) (level : String) : Option Filter :=
  (environment.bind parse?).or (parse? level)

end Filter

/-- The names of the fields of an event. -/
def Event.fieldNames (e : Event) : List String :=
  "message" :: (if e.cwd.isSome then ["cwd"] else [])

namespace Directive

/-- Decides on events outside spans. -/
def isStatic (d : Directive) : Bool := d.span.isNone && d.fields.all (·.2.isNone)

def covers (d : Directive) (e : Event) : Bool :=
  d.isStatic && (d.target.getD "").toList.isPrefixOf e.source.target.toList &&
    d.fields.all fun f => e.fieldNames.contains f.1

/-- How long the target is; having one, even an empty one, is more than having none. -/
def reach (d : Directive) : Nat :=
  match d.target with
  | some t => t.utf8ByteSize + 1
  | none => 0

/--
Whether `d`, given after `e`, is asked before it: a longer target first, then more fields, then the
fields whose names are last in the alphabet. Of two alike the later one replaces the other.
-/
def outranks (d e : Directive) : Bool :=
  let names (d : Directive) := d.fields.map (·.1)
  d.reach > e.reach || (d.reach == e.reach &&
    (d.fields.length > e.fields.length || (d.fields.length == e.fields.length &&
      !decide (names d < names e))))

end Directive

namespace Filter

def deciding? (f : Filter) (e : Event) : Option Directive :=
  (f.directives.filter (·.covers e)).foldl
    (fun best d => match best with
      | some b => some (if d.outranks b then d else b)
      | none => some d) none

def allows : Threshold → Level → Bool
  | some t, l => l.rank ≤ t.rank
  | none, _ => false

def shows (f : Filter) (e : Event) : Bool :=
  match f.deciding? e with
  | some d => allows d.threshold e.level
  | none => false

end Filter

end ClientGen.Log
