import ClientGen.Host.Processes
import ClientGen.Shell.Builtin.Letters
import ClientGen.Shell.Search

/-!
Commands on the working directory, on the mode of new files and on limits: `cd`, `pwd`, `umask` and
`ulimit`.
-/

namespace ClientGen.Shell.Builtin

open Host

/-- Whether the last of `L` and `P` asks for the place itself, and not the names that led there. -/
def isPhysical (found : List Letter) : Bool := (found.getLast?.map (·.1)) = some 'P'

/-- A path with `.` and `..` taken out of it by its text alone, from a directory. Two slashes in
front stay two. -/
def flattened (directory path : String) : String :=
  let cs := path.toList
  let (start, base, names) : String × List String × List String :=
    if cs.head? = some '/' then
      let doubled := cs.drop 1 |>.head? |> (· == some '/')
      let more := (cs.drop 2).head? == some '/'
      (if doubled && !more then "//" else "/", [], Disk.steps path)
    else
      (if directory.startsWith "//" then "//" else "/", Disk.steps directory, Disk.steps path)
  let kept := names.foldl (fun (done : List String) name =>
    if name = "." then done else if name = ".." then done.dropLast else done ++ [name]) base
  start ++ "/".intercalate kept

/-- Notes where the shell is now. Without a path the place is asked for. -/
def setDirectory (path : Option String) (noteOld : Bool) : Sh Unit := do
  if noteOld then assignWith asExported "OLDPWD" (some (← get).directory)
  let directory ← match path with
    | some p => pure p
    | none => do
      match ← Sh.call Call.workingPath with
      | .ok p => pure p
      | .error e => do
        warn s!"getcwd() failed: {e.phrase}"
        pure ""
  modify fun s => { s with directory }
  assignWith asExported "PWD" (some directory)

/-- Goes to a directory; says whether it could. -/
def enter (target : String) (physical : Bool) : Sh Bool := do
  let here := (← get).directory
  let logical :=
    if physical || (here = "" && !target.startsWith "/") then none else some (flattened here target)
  match ← Sh.call (Call.enter (logical.getD target)) with
  | .error _ => pure false
  | .ok () =>
    setDirectory logical true
    modify fun s => { s with places := s.places.map fun (n, p) => (n, { p with isStale := true }) }
    pure true

/-- Where `CDPATH` leads for a target, and whether to say so. -/
def alongDirectories (target : String) : Sh (Option (String × Bool)) := do
  let bare := target.toList
  let isDotted := match bare with
    | '/' :: _ | ['.'] | '.' :: '/' :: _ | ['.', '.'] | '.' :: '.' :: '/' :: _ => true
    | _ => false
  let given ← valueOf? "CDPATH"
  match if isDotted then none else given with
  | none => pure none
  | some directories =>
    let target := if target = "" then "." else target
    (directories.splitOn ":").findSomeM? fun d => do
      let path := if d = "" then target else s!"{d}/{target}"
      match ← Sh.call (Call.facts .follow path) with
      | .ok f => pure (if f.kind = .directory then some (path, d != "") else none)
      | .error _ => pure none

def cd (words : List String) : Sh Nat := do
  let (found, names) ← letters "LP" words
  let physical := isPhysical found
  let target ← match names with
    | [] => do pure ((← valueOf? "HOME").getD "")
    | "-" :: _ => do pure ((← valueOf? "OLDPWD").getD "")
    | w :: _ => pure w
  let (path, shown) := (← alongDirectories target).getD
    (if target = "" then "." else target, false)
  if !(← enter path physical) then
    fail s!"can't cd to {target}"
  if shown || names.head? = some "-" then print ((← get).directory ++ "\n")
  pure 0

def pwd (words : List String) : Sh Nat := do
  let (found, _) ← letters "LP" words
  if isPhysical found then
    match ← Sh.call Call.workingPath with
    | .ok p => print (p ++ "\n")
    | .error e =>
      warn s!"getcwd() failed: {e.phrase}"
      print "\n"
  else print ((← get).directory ++ "\n")
  pure 0

/-! ### The mode of new files -/

def octal (digits n : Nat) : String :=
  let ds := Nat.toDigits 8 n
  String.ofList (List.replicate (digits - ds.length) '0' ++ ds)

/-- The permissions that are left, in letters. -/
def symbolicMode (mask : Nat) : String :=
  let allowed := 0o777 - mask
  let part (who : String) (bits : Nat) : String :=
    who ++ "=" ++ (if bits / 4 % 2 = 1 then "r" else "") ++ (if bits / 2 % 2 = 1 then "w" else "") ++
      (if bits % 2 = 1 then "x" else "")
  ",".intercalate [part "u" (allowed / 64), part "g" (allowed / 8 % 8), part "o" (allowed % 8)]

/-- The bits that letters of permissions mean, given those that are there. -/
def permissionBits (present : Nat) (cs : List Char) : Nat :=
  cs.foldl (fun bits c => bits ||| (match c with
    | 'r' => 4
    | 'w' => 2
    | 'x' => 1
    | 'u' => present / 64 % 8
    | 'g' => present / 8 % 8
    | 'o' => present % 8
    | 'X' => if present &&& 0o111 = 0 then 0 else 1
    | _ => 0)) 0

def places (cs : List Char) : Nat :=
  cs.foldl (fun bits c => bits ||| (match c with
    | 'a' => 0o111
    | 'u' => 0o100
    | 'g' => 0o010
    | _ => 0o001)) 0

/-- The permissions that clauses like `u=rwx,go-w` leave; nothing if they cannot be read. -/
def readMode (present : Nat) : Nat → Nat → Nat → List Char → Option Nat
  | 0, _, _, _ => none
  | fuel + 1, mode, who, cs =>
    let named := cs.takeWhile fun c => "augo".toList.contains c
    let who := who ||| places named
    let who := if who = 0 then 0o111 else who
    match cs.drop named.length with
    | [] => some mode
    | sign :: rest =>
      if !("=+-".toList.contains sign) then none
      else
        let granted := rest.takeWhile fun c => "rwxugoXs".toList.contains c
        let bits := (permissionBits present granted &&& 7) * who
        let mode := match sign with
          | '-' => mode &&& (0o777 ^^^ (bits &&& 0o777))
          | '=' => bits ||| (mode &&& (0o777 ^^^ (who * 7)))
          | _ => mode ||| bits
        match rest.drop granted.length with
        | [] => some mode
        | ',' :: rest => readMode present fuel mode 0 rest
        | c :: rest =>
          if "=+-".toList.contains c then readMode present fuel mode who (c :: rest) else none

def umask (words : List String) : Sh Nat := do
  let (found, names) ← letters "S" words
  let mask ← Sh.ask (do pure (← Call.own).mask) 0
  match names with
  | [] =>
    print ((if found.isEmpty then octal 4 mask else symbolicMode mask) ++ "\n")
    pure 0
  | mode :: _ =>
    let cs := mode.toList
    let new ← if cs.head?.any Char.isDigit then
        if cs.all fun c => '0' ≤ c && c ≤ '7' then
          pure (cs.foldl (fun n c => n * 8 + (c.toNat - '0'.toNat)) 0)
        else fail s!"Illegal number: {mode}"
      else match readMode (0o777 - mask) (cs.length + 1) (0o777 - mask) 0 cs with
        | some granted => pure (0o777 - granted)
        | none => fail s!"Illegal mode: {mode}"
    let _ ← Sh.call (Call.setMask new)
    pure 0

/-! ### Limits -/

/-- The limits by letter: what they are called and how they stand. -/
def limits : List (Char × String × String) :=
  [('t', "time(seconds)", "unlimited"), ('f', "file(blocks)", "unlimited"),
   ('d', "data(kbytes)", "unlimited"), ('s', "stack(kbytes)", "8192"),
   ('c', "coredump(blocks)", "unlimited"), ('m', "memory(kbytes)", "unlimited"),
   ('l', "locked memory(kbytes)", "64"), ('p', "process", "unlimited"), ('n', "nofiles", "1048576"),
   ('v', "vmemory(kbytes)", "unlimited"), ('w', "locks", "unlimited"), ('r', "rtprio", "0")]

/-- Limits are shown; those that are set make no difference. -/
def ulimit (words : List String) : Sh Nat := do
  let (found, names) ← letters "HSatfdsmcnplvwr" words
  let chosen := (found.map (·.1)).filter fun c => (limits.lookup c).isSome
  if found.any (·.1 == 'a') then
    limits.forM fun (_, name, value) =>
      print (name ++ "".pushn ' ' (21 - name.length) ++ value ++ "\n")
  else if names.isEmpty then
    match limits.lookup ((chosen.getLast?).getD 'f') with
    | some (_, value) => print (value ++ "\n")
    | none => pure ()
  else if 1 < names.length then fail "too many arguments"
  else if names.head? ≠ some "unlimited" && !((names.headD "").toList.all Char.isDigit) then
    fail "bad number"
  pure 0

end ClientGen.Shell.Builtin
