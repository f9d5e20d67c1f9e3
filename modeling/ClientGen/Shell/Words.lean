/-!
Reading a plain command as words by the POSIX rules: blanks separate words, a backslash and the line
end behind it vanish, and quotes and backslashes are taken away. A text is plain when nothing in it
would be an operator, an expansion, a pattern or a comment.
-/

namespace ClientGen.Shell

inductive Quoting where
  | bare
  | single
  | double
  deriving DecidableEq

def isSpace (c : Char) : Bool := c == ' ' || c == '\t'

/-- Outside quotes these are operators, expansions or patterns wherever they stand. -/
def isActive (c : Char) : Bool := "\n|&;<>()$`*?[".toList.contains c

/-- At the start of a word these are a comment and a home directory. -/
def isActiveFirst (c : Char) : Bool := c == '#' || c == '~'

/-- After a backslash between double quotes only these lose it. -/
def isEscapedInDouble (c : Char) : Bool := c == '$' || c == '`' || c == '"' || c == '\\'

/-- Puts a character at the end of the word being read. -/
def grow (word : Option (List Char)) (c : Char) : Option (List Char) := some (word.getD [] ++ [c])

/-- Reads on with `word` begun, if one is; nothing comes of a text that is not plain. -/
def readWords (quoting : Quoting) (word : Option (List Char)) :
    List Char → Option (List (List Char))
  | [] => if quoting = .bare then some word.toList else none
  | c :: rest =>
    match quoting with
    | .single =>
      if c = '\'' then readWords .bare word rest else readWords .single (grow word c) rest
    | .double =>
      if c = '"' then readWords .bare word rest
      else if c = '\\' then
        match rest with
        | [] => none
        | d :: after =>
          if d = '\n' then readWords .double word after
          else if isEscapedInDouble d then readWords .double (grow word d) after
          else readWords .double (grow (grow word c) d) after
      else if c = '$' ∨ c = '`' then none
      else readWords .double (grow word c) rest
    | .bare =>
      if isSpace c then (readWords .bare none rest).map (word.toList ++ ·)
      else if c = '\'' then readWords .single (some (word.getD [])) rest
      else if c = '"' then readWords .double (some (word.getD [])) rest
      else if c = '\\' then
        match rest with
        | [] => none
        | d :: after =>
          if d = '\n' then readWords .bare word after else readWords .bare (grow word d) after
      else if isActive c || (word.isNone && isActiveFirst c) then none
      else readWords .bare (grow word c) rest

/-- The words of a plain command. -/
def words? (command : String) : Option (List String) :=
  (readWords .bare none command.toList).map (·.map String.ofList)

end ClientGen.Shell
