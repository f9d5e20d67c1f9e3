/-!
Quoting a text so that a POSIX shell reads it as one word. A text of safe characters stands bare;
any other is put between single quotes, where only the quote itself needs care.
-/

namespace ClientGen.Shell

def isSafe (c : Char) : Bool := c.isAlphanum || "-_./=:,+@%".toList.contains c

/-- Between single quotes: a quote ends the quoting, stands escaped, and opens it again. -/
def quotedBody : List Char → List Char
  | [] => []
  | c :: rest =>
    if c = '\'' then ['\'', '\\', '\'', '\''] ++ quotedBody rest else c :: quotedBody rest

def quoteChars (cs : List Char) : List Char :=
  if cs ≠ [] ∧ cs.all isSafe = true then cs else ['\''] ++ quotedBody cs ++ ['\'']

def quote (text : String) : String := String.ofList (quoteChars text.toList)

end ClientGen.Shell
