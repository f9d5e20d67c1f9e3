/-!
Control sequences: what a terminal acts on and does not show. `shown` is a text without them and
without the controls that stand alone; of those only blanks are kept. A sequence that is broken off
reaches until a character ends it, and a control inside one is acted on at once.
-/

namespace ClientGen.Text.ControlSequence

/-- How much of a sequence has been read. -/
inductive State where
  | ground
  | escape
  | escapeIntermediate
  | entry
  | parameter
  | intermediate
  | ignored
  | deviceEntry
  | deviceParameter
  | deviceIntermediate
  | deviceIgnored
  | device
  | command
  | message
  deriving DecidableEq

/-- The state after `ESC` and one more character. -/
def afterEscape (n : Nat) : State :=
  if n == 0x5B then .entry
  else if n == 0x5D then .command
  else if n == 0x50 then .deviceEntry
  else if n == 0x58 || n == 0x5E || n == 0x5F then .message
  else .ground

/-- The state after an ASCII character that is no control; delete changes nothing. -/
def State.next (s : State) (n : Nat) : State :=
  if n == 0x7F then s
  else match s with
    | .ground => .ground
    | .escape => if n < 0x30 then .escapeIntermediate else afterEscape n
    | .escapeIntermediate => if n < 0x30 then s else .ground
    | .entry => if n < 0x30 then .intermediate else if n < 0x40 then .parameter else .ground
    | .parameter =>
      if n < 0x30 then .intermediate
      else if n < 0x3C then s
      else if n < 0x40 then .ignored
      else .ground
    | .intermediate => if n < 0x30 then s else if n < 0x40 then .ignored else .ground
    | .ignored => if n < 0x40 then s else .ground
    | .deviceEntry =>
      if n < 0x30 then .deviceIntermediate else if n < 0x40 then .deviceParameter else .device
    | .deviceParameter =>
      if n < 0x30 then .deviceIntermediate
      else if n < 0x3C then s
      else if n < 0x40 then .deviceIgnored
      else .device
    | .deviceIntermediate => if n < 0x30 then s else if n < 0x40 then .deviceIgnored else .device
    | .deviceIgnored | .device | .command | .message => s

/-- Whether a control is acted on in the middle of what has been read. -/
def State.executes : State → Bool
  | .ground | .escape | .escapeIntermediate | .entry | .parameter | .intermediate | .ignored => true
  | _ => false

/-- Ended by the byte `9C`, which a character outside ASCII may hold. -/
def State.endsAtTerminator : State → Bool
  | .deviceIgnored | .device | .message => true
  | _ => false

def isKept (c : Char) : Bool := c == '\t' || c == '\n' || c == '\x0c' || c == '\r'

/--
What is shown of a text. `open?` says that text is being shown: from a blank in the middle of a
sequence on, what follows is shown up to the next control that is not.
-/
def shownFrom (s : State) (open? : Bool) : List Char → List Char
  | [] => []
  | c :: rest =>
    let n := c.toNat
    if n == 0x1B then shownFrom .escape false rest
    else if n == 0x18 || n == 0x1A then shownFrom .ground false rest
    else if n < 0x20 then
      if isKept c && (open? || s.executes) then c :: shownFrom s true rest
      else shownFrom (if n == 7 && s = .command then .ground else s) false rest
    else if open? || s = .ground then
      if n == 0x7F then shownFrom s false rest
      else c :: shownFrom (if 0x7F < n then .ground else s) true rest
    else if n ≤ 0x7F then shownFrom (s.next n) false rest
    else
      let ended := s.endsAtTerminator && (String.utf8EncodeChar c).contains 0x9C
      shownFrom (if ended then .ground else s) false rest

def shown (cs : List Char) : List Char := shownFrom .ground false cs

/-- Ends every highlight. -/
def reset : List Char := ['\x1b', '[', '0', 'm']

end ClientGen.Text.ControlSequence
