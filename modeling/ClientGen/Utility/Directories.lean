import ClientGen.Utility.Listing

/-!
What the options of `ls`, `dir` and `vdir` ask to see.
-/

namespace ClientGen.Utility.Directories

open Host Listing

/-- What the options say before the parts that were not told are filled in. -/
structure Wish where
  view : View
  format : Option Format
  order : Option Order
  /-- Whether a time was asked for by name. -/
  timed : Bool
  width : Option Nat
  quoting : Option QuotingStyle
  masked : Option Bool
  following : Option Following
  scale : Option Scale
  human : Option Scale
  kibibytes : Bool
  style : Option String

def knownOptions : String :=
  "a,all b,escape d,directory D,dired full-time group-directories-first h,human-readable i,inode " ++
  "k,kibibytes n,numeric-uid-gid G,no-group q,hide-control-chars r,reverse s,size w,width: " ++
  "A,almost-all B,ignore-backups F classify? file-type si H,dereference-command-line " ++
  "dereference-command-line-symlink-to-dir I,ignore: indicator-style= L,dereference hide= " ++
  "N,literal Q,quote-name quoting-style= R,recursive format= show-control-chars sort= T,tabsize: " ++
  "time= time-style= zero color? hyperlink? block-size= Z,context author " ++
  "c C f g l m o p S t u U v x X 1"

def formats : List (List String × Format) :=
  [(["verbose", "long"], .long), (["commas"], .commas), (["horizontal", "across"], .across),
   (["vertical"], .down), (["single-column"], .single)]

def orders : List (List String × Order) :=
  [(["none"], .none), (["time"], .time), (["size"], .size), (["extension"], .extension),
   (["version"], .version), (["width"], .width)]

def times : List (List String × TimeKind) :=
  [(["atime", "access", "use"], .accessed), (["ctime", "status"], .changed),
   (["mtime", "modification"], .modified), (["birth", "creation"], .modified)]

def marks : List (List String × Mark) :=
  [(["none"], .nothing), (["slash"], .slash), (["file-type"], .type), (["classify"], .classified)]

/-- When something is to be done that suits a terminal only. -/
def occasions : List (List String × Bool) :=
  [(["always", "yes", "force"], true), (["never", "no", "none"], false),
   (["auto", "tty", "if-tty"], false)]

def failure : Nat := 2

def lineWidth (text : String) : Option Nat :=
  match amountTo 0 false "" text with
  | .ok n => some n.toNat
  | .error .tooLarge => some 0
  | .error _ => none

def onOccasion (option : String) (g : Given) : Tool Bool :=
  if g.has then choice 1 option occasions g.value else pure true

def blockScale (text : String) : Tool Scale := do
  match Scale.read text with
  | .ok s => pure s
  | .error .invalid => Tool.die failure s!"invalid --block-size argument {inPlainQuotes text}"
  | .error .suffix =>
    Tool.die failure s!"invalid suffix in --block-size argument {inPlainQuotes text}"
  | .error .tooLarge => Tool.die failure s!"--block-size argument {inPlainQuotes text} too large"

def Wish.long (w : Wish) : Wish := { w with format := some .long }

def Wish.see (w : Wish) (f : View → View) : Wish := { w with view := f w.view }

def Wish.with (w : Wish) (g : Given) : Tool Wish := do
  match g.key with
  | "a" => pure (w.see fun v => { v with passed := .nothing })
  | "A" => pure (w.see fun v => { v with passed := .dots })
  | "b" => pure { w with quoting := some .escape }
  | "B" => pure (w.see fun v => { v with ignored := v.ignored ++ ["*~", ".*~"] })
  | "c" => pure { w.see (fun v => { v with time := .changed }) with timed := true }
  | "u" => pure { w.see (fun v => { v with time := .accessed }) with timed := true }
  | "d" => pure (w.see fun v => { v with plainDirectories := true })
  | "f" =>
    let w := w.see fun v => { v with passed := .nothing, blocks := false, colored := false }
    pure { w with order := some .none, format := w.format.filter (· ≠ .long) }
  | "F" => pure (w.see fun v => { v with mark := .classified })
  | "classify" => do
    if ← onOccasion "--classify" g then pure (w.see fun v => { v with mark := .classified })
    else pure w
  | "file-type" => pure (w.see fun v => { v with mark := .type })
  | "p" => pure (w.see fun v => { v with mark := .slash })
  | "indicator-style" => do
    let mark ← choice 1 "--indicator-style" marks g.value
    pure (w.see fun v => { v with mark })
  | "g" => pure (w.long.see fun v => { v with owner := false })
  | "o" => pure (w.long.see fun v => { v with group := false })
  | "G" => pure (w.see fun v => { v with group := false })
  | "n" => pure (w.long.see fun v => { v with numericIds := true })
  | "l" => pure w.long
  | "full-time" => pure { w.long with style := some "full-iso" }
  | "C" => pure { w with format := some .down }
  | "x" => pure { w with format := some .across }
  | "m" => pure { w with format := some .commas }
  | "1" => pure (if w.format = some .long then w else { w with format := some .single })
  | "format" => do
    let f ← choice 1 "--format" formats g.value
    pure { w with format := some f }
  | "h" => pure { w with scale := some .human, human := some .human }
  | "si" => pure { w with scale := some .decimal, human := some .decimal }
  | "block-size" => do
    let s ← blockScale g.value
    pure { w with scale := some s, human := some s }
  | "k" => pure { w with kibibytes := true }
  | "H" => pure { w with following := some .arguments }
  | "L" => pure { w with following := some .always }
  | "dereference-command-line-symlink-to-dir" => pure { w with following := some .directories }
  | "i" => pure (w.see fun v => { v with numbers := true })
  | "I" => pure (w.see fun v => { v with ignored := v.ignored ++ [g.value] })
  | "hide" => pure (w.see fun v => { v with hidden := v.hidden ++ [g.value] })
  | "N" => pure { w with quoting := some .literal }
  | "Q" => pure { w with quoting := some (.string true) }
  | "quoting-style" => do
    let q ← choice 1 "--quoting-style" quotingStyles g.value
    pure { w with quoting := some q }
  | "q" => pure { w with masked := some true }
  | "show-control-chars" => pure { w with masked := some false }
  | "r" => pure (w.see fun v => { v with reversed := true })
  | "R" => pure (w.see fun v => { v with recursive := true })
  | "s" => pure (w.see fun v => { v with blocks := true })
  | "S" => pure { w with order := some .size }
  | "t" => pure { w with order := some .time }
  | "U" => pure { w with order := some .none }
  | "v" => pure { w with order := some .version }
  | "X" => pure { w with order := some .extension }
  | "sort" => do
    let o ← choice 1 "--sort" orders g.value
    pure { w with order := some o }
  | "time" => do
    let time ← choice 1 "--time" times g.value
    pure { w.see (fun v => { v with time }) with timed := true }
  | "time-style" => pure { w with style := some g.value }
  | "T" => do
    match amountTo 0 false "" g.value with
    | .ok n => pure (w.see fun v => { v with tab := n.toNat })
    | .error _ => Tool.die failure s!"invalid tab size: {inPlainQuotes g.value}"
  | "w" =>
    match lineWidth g.value with
    | some n => pure { w with width := some n }
    | none => Tool.die failure s!"invalid line width: {inPlainQuotes g.value}"
  | "zero" =>
    let w := w.see fun v => { v with ending := "\x00", colored := false }
    pure { w with
      format := if w.format = some .long then w.format else some .single
      quoting := some .literal
      masked := some false }
  | "color" => do
    let colored ← onOccasion "--color" g
    pure (w.see fun v => { v with colored })
  | "hyperlink" => do
    let _ ← onOccasion "--hyperlink" g
    pure w
  | "Z" => pure (w.see fun v => { v with context := true })
  | "author" => pure (w.see fun v => { v with author := true })
  | "group-directories-first" => pure (w.see fun v => { v with directoriesFirst := true })
  | _ => pure w

def Wish.start : Wish :=
  { view :=
      { format := .single, order := .name, reversed := false, time := .modified, passed := .dotted
        hidden := [], ignored := [], plainDirectories := false, recursive := false
        following := .directories, mark := .nothing, quoting := .literal, masked := false
        numbers := false, blocks := false, context := false, owner := true, group := true
        author := false, numericIds := false, blockScale := .plain 1024, sizeScale := .plain 1
        directoriesFirst := false, width := 80, tab := 8, ending := "\n", colored := false
        recent := "", old := "", now := ⟨0, 0⟩, zone := .universal }
    format := none, order := none, timed := false, width := none, quoting := none, masked := none
    following := none, scale := none, human := none, kibibytes := false, style := none }

/-! ### Times -/

/-- The forms for times not long ago and for others. -/
def timeStyles : List (List String × (String × String)) :=
  [(["full-iso"], ("%Y-%m-%d %H:%M:%S.%N %z", "%Y-%m-%d %H:%M:%S.%N %z")),
   (["long-iso"], ("%Y-%m-%d %H:%M", "%Y-%m-%d %H:%M")), (["iso"], ("%m-%d %H:%M", "%Y-%m-%d ")),
   (["locale"], ("%b %e %H:%M", "%b %e  %Y"))]

def localeTimes : String × String := ("%b %e %H:%M", "%b %e  %Y")

/-- A style with this in front is for other languages only. -/
def foreignFront : String := "posix-"

def timeForms (style : Option String) : Tool (String × String) := do
  match style with
  | none => pure localeTimes
  | some style =>
    if style.startsWith foreignFront then pure localeTimes
    else match style.toList with
      | '+' :: cs =>
        let old := cs.takeWhile (· ≠ '\n')
        let rest := cs.drop old.length
        let text := String.ofList old
        if rest.isEmpty then pure (text, text)
        else
          let recent := rest.drop 1
          if recent.contains '\n' then
            Tool.die failure s!"invalid time style format {inPlainQuotes (String.ofList recent)}"
          pure (String.ofList recent, text)
      | _ =>
        let near := timeStyles.filter fun e => e.1.any (·.startsWith style)
        match timeStyles.find? (·.1.contains style), near with
        | some e, _ => pure e.2
        | none, [e] => pure e.2
        | none, _ => do
          let fault := if near.isEmpty then "invalid" else "ambiguous"
          Tool.warn s!"{fault} argument {inPlainQuotes style} for 'time style'"
          Tool.say ("Valid arguments are:\n  - [posix-]full-iso\n  - [posix-]long-iso\n" ++
            "  - [posix-]iso\n  - [posix-]locale\n  - +FORMAT (e.g., +%H:%M) for a 'date'-style format")
          Tool.hint
          Tool.exit failure

/-! ### Terminals -/

/-- The kinds of terminals that show colours. -/
def colourTerminals : List String :=
  ["Eterm", "ansi", "*color*", "con[0-9]*x[0-9]*", "cons25", "console", "cygwin", "*direct*",
   "dtterm", "gnome", "hurd", "jfbterm", "konsole", "kterm", "linux", "linux-c", "mlterm", "putty",
   "rxvt*", "screen*", "st", "terminator", "tmux*", "vt100", "xterm*"]

/-- Whether the environment speaks of colours at all. -/
def showsColours : Tool Bool := do
  let filled (name : String) : Tool Bool := do
    pure ((← Tool.lookupVariable name).any (· ≠ ""))
  let colours ← filled "LS_COLORS"
  let named ← filled "COLORTERM"
  let terminal := (← Tool.lookupVariable "TERM").getD ""
  pure (colours || named || colourTerminals.any (matchesPattern terminal))

/-! ### Views -/

/-- The width of a line, unless options tell it. -/
def usualWidth : Tool Nat := do
  match (← Tool.lookupVariable "COLUMNS").filter (· ≠ "") with
  | none => pure 80
  | some text => match lineWidth text with
    | some n => pure n
    | none => do
      Tool.warn s!"ignoring invalid width in environment variable COLUMNS: {inPlainQuotes text}"
      pure 80

def usualQuoting (plain : QuotingStyle) : Tool QuotingStyle := do
  match ← Tool.lookupVariable "QUOTING_STYLE" with
  | none => pure plain
  | some text => match quotingStyles.find? (·.1.contains text) with
    | some e => pure e.2
    | none => do
      Tool.warn
        s!"ignoring invalid value of environment variable QUOTING_STYLE: {inPlainQuotes text}"
      pure plain

/-- The size of blocks that the environment asks for, with the one for sizes of files. -/
def usualScale : Tool (Option Scale × Option Scale) := do
  let read (name : String) : Tool (Option Scale) := do
    pure ((← Tool.lookupVariable name).bind fun text => (Scale.read text).toOption)
  let own := (← read "LS_BLOCK_SIZE").orElse fun _ => none
  let general ← read "BLOCK_SIZE"
  let both := own.orElse fun _ => general
  if both.isSome then pure (both, both)
  else
    let old ← read "BLOCKSIZE"
    pure (old, none)

def Wish.finish (w : Wish) (format : Format) (quoting : QuotingStyle) : Tool View := do
  let v := w.view
  let format := w.format.getD format
  let explicit ← (match w.quoting with
    | some q => pure q
    | none => usualQuoting quoting)
  let width ← (match w.width with
    | some n => pure n
    | none => usualWidth)
  let (scale, sizes) ← (match w.scale with
    | some s => pure (some s, w.human)
    | none => usualScale)
  let posix := (← Tool.lookupVariable "POSIXLY_CORRECT").isSome
  let usual : Scale := .plain (if posix then 512 else 1024)
  let following := w.following.getD
    (if v.plainDirectories || v.mark = .classified || format = .long then .never else .directories)
  let order := w.order.getD (if format ≠ .long && w.timed then .time else .name)
  let style ← (match w.style with
    | some s => pure (some s)
    | none => Tool.lookupVariable "TIME_STYLE")
  let (recent, old) ← (if format = .long then timeForms style else pure localeTimes)
  let now := Time.Moment.ofNanos (← Tool.act Act.now)
  let colours ← showsColours
  let zone ← Tool.clock
  pure { v with
    colored := v.colored && colours
    format, order, following, width, recent, old, now, zone
    quoting := explicit
    masked := w.masked.getD false
    blockScale := (scale.filter fun _ => !(w.kibibytes && w.scale.isNone)).getD
      (if w.kibibytes then .plain 1024 else usual)
    sizeScale := sizes.getD (.plain 1) }

def list (format : Format) (quoting : QuotingStyle) (words : List String) : Tool Unit := do
  let (w, operands) ← foldOptions knownOptions failure words Wish.start Wish.with
  let v ← w.finish format quoting
  v.run operands

def ls : List String → Tool Unit := list .single .literal
def dir : List String → Tool Unit := list .down .escape
def vdir : List String → Tool Unit := list .long .escape

end ClientGen.Utility.Directories
