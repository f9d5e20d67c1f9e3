import ClientGen.Utility.Tool

/-!
Paths as utilities take them apart, and the one way to write where a path leads.
-/

namespace ClientGen.Utility.Paths

open Host

def dropSlashes (cs : List Char) : List Char := (cs.reverse.dropWhile (· = '/')).reverse

/-- Without slashes at its end, unless it is nothing but slashes. -/
def withoutSlashes (path : String) : String :=
  let cs := dropSlashes path.toList
  if cs = [] ∧ path ≠ "" then "/" else String.ofList cs

/-- The last part with the slashes behind it; nothing where there are only slashes. -/
def lastPart (path : String) : String :=
  let cs := path.toList
  let body := dropSlashes cs
  let name := (body.reverse.takeWhile (· ≠ '/')).reverse
  String.ofList (cs.drop (body.length - name.length))

/-- The last part alone. -/
def baseName (path : String) : String :=
  let name := withoutSlashes (lastPart path)
  if path ≠ "" && (name = "" || (lastPart path).startsWith "/") then "/" else name

/-- What is in front of the last part. -/
def dirName (path : String) : String :=
  let body := dropSlashes path.toList
  let front := body.take (body.length - (body.reverse.takeWhile (· ≠ '/')).length)
  let cut := dropSlashes front
  if cut ≠ [] then String.ofList cut
  else if path.startsWith "/" then "/" else "."

/-- A name in a directory. -/
def joined (dir name : String) : String :=
  let name := String.ofList (name.toList.dropWhile (· = '/'))
  match dropSlashes dir.toList with
  | [] => dir ++ name
  | cs => String.ofList cs ++ "/" ++ name

/-- Slashes at the end made one, as they are where a tree is walked. -/
def withOneSlash (path : String) : String :=
  if path.endsWith "//" then
    match dropSlashes path.toList with
    | [] => if path.length = 2 then path else "/"
    | cs => String.ofList cs ++ "/"
  else path

/-- The path of an entry met on the way down. -/
def below (dir name : String) : String :=
  if dir.endsWith "/" then dir ++ name else dir ++ "/" ++ name

def isDotOrDots (name : String) : Bool :=
  let name := withoutSlashes name
  name == "." || name == ".."

def parts (path : String) : List String :=
  ((path.toList.splitOn '/').filter (· ≠ [])).map String.ofList

/-! ### Where paths lead -/

/-- Which parts of a path have to be there. -/
inductive Demand where
  | all
  | allButLast
  | nothing
  deriving DecidableEq

structure Walk where
  /-- The way so far, from the root. -/
  done : List String
  todo : List String
  /-- Links that may still be followed. -/
  links : Nat
  /-- A directory is asked for. -/
  slash : Bool

def textOf (done : List String) : String := "/" ++ "/".intercalate done

/-- One part of the way. -/
def stepOn (demand : Demand) (w : Walk) (name : String) (rest : List String) :
    Tool (Except Errno Walk) := do
  let next := w.done ++ [name]
  let on : Except Errno Walk := .ok { w with done := next, todo := rest }
  match ← Tool.call (Call.facts .keep (textOf next)) with
  | .error e =>
    let fine := demand = .nothing || (demand = .allButLast && rest = [] && e = .noEntry)
    pure (if fine then on else .error e)
  | .ok f =>
    if f.kind = .link then
      match w.links with
      | 0 => pure (if demand = .nothing then on else .error .tooManyLinks)
      | links + 1 => do
        let target ← Tool.ask (Call.readLink (textOf next)) ""
        pure (.ok { w with
          done := if target.startsWith "/" then [] else w.done
          todo := parts target ++ rest
          slash := w.slash || (rest = [] && target.endsWith "/")
          links })
    else if demand ≠ .nothing ∧ f.kind ≠ .directory ∧ (rest ≠ [] ∨ w.slash = true) then
      pure (.error .notDirectory)
    else pure on

/-- Whether what is left of a path makes sense behind a directory only. -/
def needsDirectory (slash : Bool) : List String → Bool
  | [] => slash
  | "." :: rest => needsDirectory true rest
  | ".." :: _ => true
  | _ => false

/-- One part of the way where links are not followed: it is looked at no closer than it has to be. -/
def stepPast (demand : Demand) (w : Walk) (name : String) (rest : List String) :
    Tool (Except Errno Walk) := do
  let next := w.done ++ [name]
  let on : Except Errno Walk := .ok { w with done := next, todo := rest }
  let directory := needsDirectory w.slash rest
  if demand = .nothing || (!directory && !rest.isEmpty) then pure on
  else match ← Tool.call (Call.facts .follow (textOf next)) with
    | .ok f => pure (if directory && f.kind ≠ .directory then .error .notDirectory else on)
    | .error e => pure (if demand = .allButLast && rest = [] && e = .noEntry then on else .error e)

/-- Where a path leads, written from the root without links and dots. -/
def canonical (demand : Demand) (follow : Bool) (path : String) : Tool (Except Errno String) := do
  if path = "" then return .error .noEntry
  let start ← if path.startsWith "/" then pure (.ok "/") else Tool.call Call.workingPath
  match start with
  | .error e => pure (.error e)
  | .ok here =>
    let w : Walk := ⟨parts here, parts path, Disk.linkLimit, path.endsWith "/"⟩
    Tool.iterate w fun w => do
      match w.todo with
      | [] => pure (.inr (.ok (textOf w.done)))
      | name :: rest =>
        if name = "." then pure (.inl { w with todo := rest })
        else if name = ".." then pure (.inl { w with done := w.done.dropLast, todo := rest })
        else match ← (if follow then stepOn demand w name rest else stepPast demand w name rest) with
          | .ok w => pure (.inl w)
          | .error e => pure (.inr (.error e))

/-- The way from one directory to a path, both written from the root. -/
def relative (dir path : String) : String :=
  let rec common : List String → List String → List String × List String
    | a :: as, b :: bs => if a = b then common as bs else (a :: as, b :: bs)
    | as, bs => (as, bs)
  let (up, down) := common (parts dir) (parts path)
  match up, down with
  | [], [] => "."
  | up, down => "/".intercalate (up.map (fun _ => "..") ++ down)

/-- Whether a path is a directory or lies below it. -/
def isWithin (dir path : String) : Bool := (parts dir).isPrefixOf (parts path)

end ClientGen.Utility.Paths
