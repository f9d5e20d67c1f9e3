/-!
Blank characters and trimming. The class is Unicode's `White_Space` property, which is wider than
`Char.isWhitespace`; trimming removes it at the ends of a text and nowhere else.
-/

namespace ClientGen.Text

/-- Unicode `White_Space`. -/
def isBlank (c : Char) : Bool :=
  let n := c.toNat
  (0x9 ≤ n && n ≤ 0xD) || n == 0x20 || n == 0x85 || n == 0xA0 || n == 0x1680 ||
    (0x2000 ≤ n && n ≤ 0x200A) || n == 0x2028 || n == 0x2029 || n == 0x202F || n == 0x205F ||
    n == 0x3000

def dropBlankStart (cs : List Char) : List Char := cs.dropWhile isBlank

/-- Drops the longest suffix of characters in `p`. -/
def dropEndWhile (p : Char → Bool) (cs : List Char) : List Char := (cs.reverse.dropWhile p).reverse

def dropBlankEnd (cs : List Char) : List Char := dropEndWhile isBlank cs

def trim (cs : List Char) : List Char := dropBlankEnd (dropBlankStart cs)

/-- Nothing but blanks; the empty text is blank. -/
def isBlankText (s : String) : Bool := s.toList.all isBlank

def trimEnd (s : String) : String := String.ofList (dropBlankEnd s.toList)

end ClientGen.Text
