import ClientGen.Time.Format
import ClientGen.Time.Reading
import ClientGen.Utility.Amount
import ClientGen.Utility.Input

/-!
Utilities about moments: `date` and `touch`.
-/

namespace ClientGen.Utility.Dates

open Host Time

def now : Tool Moment := do pure (.ofNanos (← Tool.act Act.now))

/-! ### Showing -/

def isoFormats : List (List String × String) :=
  [(["hours"], "%Y-%m-%dT%H%:z"), (["minutes"], "%Y-%m-%dT%H:%M%:z"), (["date"], "%Y-%m-%d"),
   (["seconds"], "%Y-%m-%dT%H:%M:%S%:z"), (["ns"], "%Y-%m-%dT%H:%M:%S,%N%:z")]

def spacedFormats : List (List String × String) :=
  [(["date"], "%Y-%m-%d"), (["seconds"], "%Y-%m-%d %H:%M:%S%:z"),
   (["ns"], "%Y-%m-%d %H:%M:%S.%N%:z")]

/-- The format an option asks for, if it asks for one. -/
def formatOf? (g : Given) : Tool (Option String) := do
  match g.key with
  | "I" => if g.has then some <$> choice 1 "--iso-8601" isoFormats g.value else pure (some "%Y-%m-%d")
  | "R" | "rfc-822" | "rfc-2822" => pure (some "%a, %d %b %Y %H:%M:%S %z")
  | "rfc-3339" => some <$> choice 1 "--rfc-3339" spacedFormats g.value
  | "resolution" => pure (some "%s.%N")
  | _ => pure none

def put (zone : Zone) (format : String) (m : Moment) : Tool Unit :=
  Tool.print (Time.format zone format m ++ "\n")

def date (words : List String) : Tool Unit := do
  let formatsOf (found : List Given) : Tool (List String) := do
    let formats ← found.filterMapM formatOf?
    if 1 < formats.length then Tool.die 1 "multiple output formats specified"
    pure formats
  let known := "d,date: debug f,file: I,iso-8601? r,reference: resolution " ++
    "R,rfc-email rfc-822 rfc-2822 rfc-3339: s,set: uct u,utc universal"
  let (found, operands) ← optionsSoFar known false 1 words fun found => do
    let _ ← formatsOf found
  let formats ← formatsOf found
  let sources := found.filter fun g => ["d", "f", "r", "resolution"].contains g.key
  let kinds := (sources.map (·.key)).eraseDups
  if 1 < kinds.length then
    Tool.misused 1 "the options to specify dates for printing are mutually exclusive"
  if !sources.isEmpty && has found "s" then
    Tool.misused 1 "the options to print and set the time may not be used together"
  let format ← match operands with
    | [] => pure formats.head?
    | o :: more => do
      match more with
      | extra :: _ => extraOperand extra
      | [] => pure ()
      if o.startsWith "+" then
        if formats ≠ [] then Tool.die 1 "multiple output formats specified"
        pure (some (String.ofList (o.toList.drop 1)))
      else if !sources.isEmpty || has found "s" then
        Tool.misused 1 (s!"the argument {inPlainQuotes o} lacks a leading '+';\n" ++
          "when using an option to specify date(s), any non-option\n" ++
          "argument must be a format string beginning with '+'")
      else Tool.die 1 s!"invalid date {inPlainQuotes o}"
  let format := format.getD "%a %b %e %H:%M:%S %Z %Y"
  let now ← now
  let zone ← if ["u", "uct", "universal"].any (has found) then pure Zone.universal
    else Tool.clock
  let put := put zone
  let described (text : String) : Tool Unit := do
    match read? zone now text with
    | some m => put format m
    | none => Tool.fault s!"invalid date {inPlainQuotes text}"
  match sources.getLast? with
  | none =>
    match lastValue? found "s" with
    | some text => do
      Tool.fault s!"cannot set date: {Errno.notPermitted.phrase}"
      described text
    | none => put format now
  | some g =>
    match g.key with
    | "d" => described g.value
    | "f" => do
      match ← contentOf g.value with
      | .error e => Tool.die 1 s!"{shown g.value}: {e.cause.phrase}"
      | .ok bytes => (linesOf bytes 10).forM described
    | "r" => do
      match ← Tool.call (Call.facts .follow g.value) with
      | .error e => Tool.die 1 s!"{shown g.value}: {e.phrase}"
      | .ok f => put format (.ofNanos f.modified)
    | _ => put format ⟨0, 1⟩

/-! ### Setting -/

/-- A moment in digits: month, day, hour and minute, with a year in front and seconds behind a
point. -/
def stamp? (zone : Zone) (now : Moment) (text : String) : Option Moment := do
  let cs := text.toList
  let ds := cs.takeWhile Char.isDigit
  let second ← match cs.drop ds.length with
    | [] => some 0
    | ['.', a, b] => if a.isDigit && b.isDigit then some (value [a, b]) else none
    | _ => none
  let (year, ds) ← match ds.length with
    | 8 => some ((now.fieldsIn zone).date.year, ds)
    | 10 => some (WrittenYear.value ⟨value (ds.take 2), 2⟩, ds.drop 2)
    | 12 => some ((value (ds.take 4) : Int), ds.drop 4)
    | _ => none
  let part (i : Nat) : Nat := value ((ds.drop (2 * i)).take 2)
  let d : Date := ⟨year, part 0, part 1⟩
  if !d.isValid || 24 ≤ part 2 || 60 ≤ part 3 || 60 < second then none
  pure ⟨secondsOf d (part 2) (part 3) second - zone.ahead, 0⟩

/-- The times that are set; one that is not given stays. -/
structure Times where
  accessed : Option Nat
  modified : Option Nat

def touchOne (create links : Bool) (t : Times) (path : String) : Tool Unit := do
  let times (last : Disk.Last) (path : String) : Tool (Except Errno Unit) :=
    Tool.call (Call.changeTimes last path t.accessed t.modified)
  if path = "-" then
    let _ ← times .follow "/dev/stdout"
    return
  let opened ← if !create || links then pure none else do
    let o : Opening := { Opening.writing with truncate := false }
    match ← Tool.call (Call.openAt path o 0o666) with
    | .ok fd => do
      let _ ← Tool.call (Call.close fd)
      pure none
    | .error e => pure (some e)
  match ← times (if links then .keep else .follow) path with
  | .ok () => pure ()
  | .error e =>
    match opened with
    | some cause =>
      if cause ≠ .isDirectory then Tool.fault s!"cannot touch {quoted path}: {cause.phrase}"
      else Tool.fault s!"setting times of {quoted path}: {e.phrase}"
    | none =>
      if create || e ≠ .noEntry then Tool.fault s!"setting times of {quoted path}: {e.phrase}"

def touch (words : List String) : Tool Unit := do
  let now ← now
  let zone ← Tool.clock
  let kind (g : Given) : Tool String :=
    choice 1 "--time" [(["atime", "access", "use"], "a"), (["mtime", "modify"], "m")] g.value
  let check (g : Given) : Tool Unit := do
    if g.key = "t" && (stamp? zone now g.value).isNone then
      Tool.die 1 s!"invalid date format {inPlainQuotes g.value}"
    if g.key = "time" then
      let _ ← kind g
  let (found, operands) ← optionsBy check
    "time: c,no-create d,date: r,reference: h,no-dereference a f m t:" words
  let kinds ← (found.filter (·.key == "time")).mapM kind
  let accessed := has found "a" || kinds.contains "a"
  let modified := has found "m" || kinds.contains "m"
  let (accessed, modified) := if !accessed && !modified then (true, true) else (accessed, modified)
  let stamp := (lastValue? found "t").bind (stamp? zone now)
  let like := lastValue? found "r"
  let described := lastValue? found "d"
  if stamp.isSome && (like.isSome || described.isSome) then
    Tool.misused 1 "cannot specify times from more than one source"
  let read (base : Moment) (text : String) : Tool Nat := do
    match read? zone base text with
    | some m => pure m.toNanos
    | none => Tool.die 1 s!"invalid date format {inPlainQuotes text}"
  let (a, m) ← match like with
    | some path => do
      match ← Tool.call (Call.facts (if has found "h" then .keep else .follow) path) with
      | .error e => Tool.die 1 s!"failed to get attributes of {quoted path}: {e.phrase}"
      | .ok f =>
        match described with
        | some text => do
          pure (← read (.ofNanos f.accessed) text, ← read (.ofNanos f.modified) text)
        | none => pure (f.accessed, f.modified)
    | none => do
      let n ← match stamp, described with
        | some m, _ => pure m.toNanos
        | none, some text => read now text
        | none, none => Tool.ask Call.stamp now.toNanos
      pure (n, n)
  if operands = [] then Tool.misused 1 "missing file operand"
  let t : Times := ⟨if accessed then some a else none, if modified then some m else none⟩
  onEach operands (touchOne (!has found "c") (has found "h") t)

end ClientGen.Utility.Dates
