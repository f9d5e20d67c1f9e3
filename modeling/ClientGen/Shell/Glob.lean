import ClientGen.Host.Files
import ClientGen.Shell.Pattern

/-!
Replacing a field that is a pattern by the paths that match it.
-/

namespace ClientGen.Shell

open Host

namespace Pattern

/-- The paths below `front` that match the segments left. Only names of directories match a segment
that is not the last. -/
def pathsBelow (front : String) : List Marked → Call (List String)
  | [] => pure []
  | segment :: rest => do
    let names ←
      if segment.any isSpecial then do
        match ← Call.attempt (Call.list (if front = "" then "." else front)) with
        | .ok names => pure (("." :: ".." :: names).filter (matchesName segment))
        | .error _ => pure []
      else pure [String.ofList (Marked.chars (segment.filter fun c => c.2 || c.1 != '\\'))]
    match rest with
    | [] => do
      names.filterMapM fun name => do
        let path := front ++ name
        match ← Call.attempt (Call.facts .keep path) with
        | .ok _ => pure (some path)
        | .error _ => pure none
    | _ => do
      pure (← names.mapM fun name => pathsBelow (front ++ name ++ "/") rest).flatten

/-- A field without a pattern, or whose pattern matches nothing, stands as it is. -/
def expandField (m : Marked) : Call (List String) := do
  let plain := [String.ofList m.chars]
  if m.any isSpecial then
    match ← pathsBelow "" (m.splitOnP (·.1 == '/')) with
    | [] => pure plain
    | found => pure (found.mergeSort fun a b => !(b < a))
  else pure plain

end Pattern

end ClientGen.Shell
