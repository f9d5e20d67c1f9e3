import ClientGen.Utility.Fields
import ClientGen.Utility.Listing

/-!
How much room files take, directory by directory: `du`.
-/

namespace ClientGen.Utility.Usage

open Host

/-! ### What is asked for -/

inductive Following where
  | never
  | arguments
  | always
  deriving DecidableEq

structure Plan where
  all : Bool
  apparent : Bool
  scale : Scale
  total : Bool
  depth : Option Int
  summary : Bool
  /-- Whether files with several names count once for each of them. -/
  countsLinks : Bool
  separate : Bool
  inodes : Bool
  following : Following
  zero : Bool
  threshold : Int
  excluded : List String
  /-- A file with the names of those that count. -/
  names : Option String
  /-- The time that is shown beside the room, the latest below a directory. -/
  time : Option (Facts → Nat)
  /-- How it is written. -/
  style : Option String

def Plan.start (scale : Scale) : Plan :=
  { all := false, apparent := false, scale, total := false, depth := none, summary := false
    countsLinks := false, separate := false, inodes := false, following := .never, zero := false
    threshold := 0, excluded := [], names := none, time := none, style := none }

def scaleOf (option text : String) : Tool Scale := do
  match Scale.read text with
  | .ok s => pure s
  | .error .invalid => Tool.die 1 s!"invalid {option} argument {inPlainQuotes text}"
  | .error .suffix => Tool.die 1 s!"invalid suffix in {option} argument {inPlainQuotes text}"
  | .error .tooLarge => Tool.die 1 s!"{option} argument {inPlainQuotes text} too large"

def Plan.thresholdFrom (p : Plan) (option text : String) : Tool Plan := do
  match amountTo 0 true "kKmMGTPEZY0" text with
  | .ok n => do
    if n = 0 && text.startsWith "-" then Tool.die 1 "invalid --threshold argument '-0'"
    pure { p with threshold := n }
  | .error .invalid => Tool.die 1 s!"invalid {option} argument {inPlainQuotes text}"
  | .error .suffix => Tool.die 1 s!"invalid suffix in {option} argument {inPlainQuotes text}"
  | .error .tooLarge => Tool.die 1 s!"{option} argument {inPlainQuotes text} too large"

def times : List (List String × (Facts → Nat)) :=
  [(["atime", "access", "use"], Facts.accessed), (["ctime", "status"], Facts.changed)]

def Plan.take (p : Plan) (g : Given) : Tool Plan := do
  let text := g.value
  match g.key with
  | "0" => pure { p with zero := true }
  | "a" => pure { p with all := true }
  | "apparent-size" => pure { p with apparent := true }
  | "b" => pure { p with apparent := true, scale := .plain 1 }
  | "B" => do pure { p with scale := ← scaleOf "-B" text }
  | "block-size" => do pure { p with scale := ← scaleOf "--block-size" text }
  | "c" => pure { p with total := true }
  | "d" =>
    match amountTo 0 true "" text with
    | .ok n => pure { p with depth := some n }
    | .error _ => do
      Tool.fault s!"invalid maximum depth {inPlainQuotes text}"
      pure p
  | "D" | "H" => pure { p with following := .arguments }
  | "L" => pure { p with following := .always }
  | "P" => pure { p with following := .never }
  | "h" => pure { p with scale := .human }
  | "si" => pure { p with scale := .decimal }
  | "inodes" => pure { p with inodes := true }
  | "k" => pure { p with scale := .plain 1024 }
  | "m" => pure { p with scale := .plain 1048576 }
  | "l" => pure { p with countsLinks := true }
  | "s" => pure { p with summary := true }
  | "S" => pure { p with separate := true }
  | "t" => p.thresholdFrom "-t" text
  | "threshold" => p.thresholdFrom "--threshold" text
  | "exclude" => pure { p with excluded := p.excluded ++ [text] }
  | "X" => do
    match ← contentOf text with
    | .ok bytes => pure { p with excluded := p.excluded ++ linesOf bytes 10 }
    | .error e => do
      Tool.fault s!"{shown text}: {e.cause.phrase}"
      pure p
  | "files0-from" => pure { p with names := some text }
  | "time" => do
    let time ← if g.has then choice 1 "--time" times text else pure Facts.modified
    pure { p with time := some time }
  | "time-style" => pure { p with style := some text }
  | _ => pure p

def styles : List (List String × String) :=
  [(["full-iso"], "%Y-%m-%d %H:%M:%S.%N %z"), (["long-iso"], "%Y-%m-%d %H:%M"),
   (["iso"], "%Y-%m-%d")]

/-- The format of times, by the style asked for here or in the environment. -/
def Plan.format (p : Plan) : Tool String := do
  let style ← match p.style with
    | some s => pure s
    | none => do
      let usual := ((← Tool.lookupVariable "TIME_STYLE").filter (· ≠ "locale")).getD "long-iso"
      let cs := usual.toList
      pure (if usual.startsWith "+" then String.ofList (cs.takeWhile (· ≠ '\n'))
        else if usual.startsWith "posix-" then String.ofList (cs.drop 6) else usual)
  if style.startsWith "+" then pure (String.ofList (style.toList.drop 1))
  else choice 1 "time style" styles style

def Plan.check (p : Plan) : Tool Plan := do
  if (← get).status ≠ 0 then
    Tool.hint
    Tool.exit 1
  if p.all && p.summary then Tool.misused 1 "cannot both summarize and show all entries"
  match p.summary, p.depth with
  | true, some 0 => Tool.warn "warning: summarizing is the same as using --max-depth=0"
  | true, some n => Tool.misused 1 s!"warning: summarizing conflicts with --max-depth={n}"
  | _, _ => pure ()
  if p.inodes && p.apparent then
    Tool.warn "warning: options --apparent-size and -b are ineffective with --inodes"
  let p := if p.summary then { p with depth := some 0 } else p
  let p ← if p.time.isNone then pure p else do pure { p with style := some (← p.format) }
  pure (if p.inodes then { p with scale := { p.scale with unit := 1 } } else p)

/-! ### Counting -/

def Plan.sizeOf (p : Plan) (f : Facts) : Nat :=
  if p.inodes then 1 else if p.apparent then f.size else Listing.blocksOf f * 512

/-- What a pattern may match: a path, and what is behind each of its slashes. -/
def tailsOf : List Char → List (List Char)
  | [] => []
  | '/' :: rest => if rest.isEmpty then [] else rest :: tailsOf rest
  | _ :: rest => tailsOf rest

def Plan.excludes (p : Plan) (path : String) : Bool :=
  let cs := path.toList
  p.excluded.any fun pattern => (cs :: tailsOf cs).any fun t =>
    Shell.Pattern.matchesText (pattern.toList.map fun c => (c, false)) t

/-- Room taken, and the latest time of what takes it. -/
structure Taken where
  size : Nat
  time : Nat

def Taken.nothing : Taken := ⟨0, 0⟩

def Taken.add (a b : Taken) : Taken := ⟨a.size + b.size, max a.time b.time⟩

def Plan.print (p : Plan) (taken : Taken) (name : String) : Tool Unit := do
  let time ← if p.time.isNone then pure "" else do
    pure ("\t" ++ Time.format (← Tool.clock) (p.style.getD "") (.ofNanos taken.time))
  Tool.print s!"{p.scale.text taken.size 1}{time}\t{name}{endingText p.zero}"

/-- Room taken: by a file itself, and by what is in directories below it. -/
structure Room where
  own : Taken
  below : Taken

def Room.nothing : Room := ⟨.nothing, .nothing⟩

def Room.add (a b : Room) : Room := ⟨a.own.add b.own, a.below.add b.below⟩

/-- The files that have been counted, and all their room. -/
structure Tally where
  seen : List Ino
  total : Taken

def depthLimit : Nat := 1000

def isDangling (path : String) : Tool Bool := do
  Tool.ask (do pure ((← Call.facts .keep path).kind = .link)) false

/-- Counts a file and all below it, and prints what is to be seen of them. -/
def Plan.visit (p : Plan) (several : Bool) :
    Nat → Nat → String → Tally → Tool (Room × Tally)
  | 0, _, _, t => pure (.nothing, t)
  | fuel + 1, level, path, t => do
    let nothing := Room.nothing
    let follows := p.following = .always || (p.following = .arguments && level = 0)
    match ← Tool.call (Call.facts (if follows then .follow else .keep) path) with
    | .error e => do
      let dangling := follows && (← isDangling path)
      let cause := if dangling then "" else s!": {e.phrase}"
      if !p.excludes path then Tool.fault s!"cannot access {quoted path}{cause}"
      pure (nothing, t)
    | .ok f => do
      let directory := f.kind = .directory
      let once := !p.countsLinks && (several || p.following = .always || (!directory && 1 < f.names))
      if p.excludes path || (once && t.seen.contains f.ino) then pure (nothing, t)
      else do
        let t := if once then { t with seen := f.ino :: t.seen } else t
        let taken : Taken := ⟨p.sizeOf f, (p.time.map fun time => time f).getD 0⟩
        let (inner, t) ← if !directory then pure (nothing, t)
          else do
            match ← Tool.call (Call.list path) with
            | .error e => do
              Tool.fault s!"cannot read directory {quoted path}: {e.phrase}"
              pure (nothing, t)
            | .ok names =>
              names.foldlM (fun (room, t) name => do
                let (r, t) ← p.visit several fuel (level + 1) (Paths.below path name) t
                pure (room.add r, t)) (nothing, t)
        let shown := taken.add inner.own
        let shown := if p.separate then shown else shown.add inner.below
        let deep := p.depth.any fun d => d < (level : Int)
        let large := if p.threshold < 0 then (shown.size : Int) ≤ -p.threshold
          else p.threshold ≤ (shown.size : Int)
        if ((directory || p.all) && !deep || level = 0) && large then p.print shown path
        let own := if directory && p.separate then .nothing else taken
        pure (⟨own, inner.own.add inner.below⟩, { t with total := t.total.add taken })

/-- The size of blocks that the environment asks for. -/
def usualScale : Tool Scale := do
  let names := ["DU_BLOCK_SIZE", "BLOCK_SIZE", "BLOCKSIZE"]
  let found ← names.mapM fun name => do
    pure ((← Tool.lookupVariable name).bind fun text => (Scale.read text).toOption)
  let strict := (← Tool.lookupVariable "POSIXLY_CORRECT").isSome
  pure ((found.findSome? id).getD (.plain (if strict then 512 else 1024)))

def knownOptions : String :=
  "a,all apparent-size B: block-size: b,bytes l,count-links L,dereference D,dereference-args " ++
  "exclude: X,exclude-from: files0-from: h,human-readable inodes si d,max-depth: 0,null " ++
  "P,no-dereference x,one-file-system S,separate-dirs s,summarize c,total t: threshold: time? " ++
  "time-style: H k m"

def du (words : List String) : Tool Unit := do
  let (p, operands) ← foldOptions knownOptions 1 words (Plan.start (← usualScale)) Plan.take
  let p ← p.check
  let paths ← match p.names, operands with
    | some _, o :: _ => do
      Tool.warn s!"extra operand {inPlainQuotes o}"
      Tool.say "file operands cannot be combined with --files0-from"
      Tool.hint
      Tool.exit 1
    | some path, [] => Fields.namesFrom path
    | none, [] => pure ["."]
    | none, operands => pure operands
  let t ← paths.foldlM (fun t path => do
    if path = "" then
      Tool.fault "invalid zero-length file name"
      pure t
    else
      let (_, t) ← p.visit (1 < paths.length) depthLimit 0 (Paths.withOneSlash path) t
      pure t) (⟨[], .nothing⟩ : Tally)
  if p.total then p.print t.total "total"

end ClientGen.Utility.Usage
