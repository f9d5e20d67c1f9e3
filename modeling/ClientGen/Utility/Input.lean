import ClientGen.Utility.Options

/-!
What utilities read: operands, with a dash for standard input, whole or line by line.
-/

namespace ClientGen.Utility

open Host

/-- Opens an operand for reading. -/
def openOperand (path : String) : Tool (Except Errno Nat) := do
  if path = "-" then pure (.ok 0) else Tool.act (Act.openPath path .reading 0)

def closeFile (fd : Nat) : Tool Unit := do
  if fd ≠ 0 then
    let _ ← Tool.call (Call.close fd)

/-- Where reading an operand failed. -/
inductive ReadFault where
  | opening (e : Errno)
  | reading (e : Errno)

def ReadFault.cause : ReadFault → Errno
  | opening e | reading e => e

/-- All of an operand. -/
def contentOf (path : String) : Tool (Except ReadFault ByteArray) := do
  match ← openOperand path with
  | .error e => pure (.error (.opening e))
  | .ok fd => do
    let r ← Tool.act (Act.readAll fd)
    closeFile fd
    pure (r.mapError .reading)

/-- Takes what an open file gives, piece by piece, until the end or until enough has been read. -/
def eachPiece {σ : Type} (fd : Nat) (s : σ) (step : σ → ByteArray → Tool (σ × Bool)) :
    Tool (σ × Option Errno) :=
  Tool.iterate s fun s => do
    match ← Tool.act (Act.read fd Call.readLimit) with
    | .error .interrupted => pure (.inl s)
    | .error e => pure (.inr (s, some e))
    | .ok bytes =>
      if bytes.size = 0 then pure (.inr (s, none))
      else
        let (s, more) ← step s bytes
        pure (if more then .inl s else .inr (s, none))

/-- The index of a byte from some place on. -/
def indexFrom (bytes : ByteArray) (b : UInt8) (start : Nat) : Option Nat :=
  let rec go : Nat → Nat → Option Nat
    | 0, _ => none
    | fuel + 1, i => if bytes[i]? = some b then some i else go fuel (i + 1)
  go (bytes.size - start) start

/-- Pieces between the ends, without them; and what is behind the last end. -/
def cutAt (bytes : ByteArray) (ending : UInt8) : List ByteArray × ByteArray :=
  let rec go (done : List ByteArray) (start : Nat) : Nat → List ByteArray × ByteArray
    | 0 => (done.reverse, bytes.extract start bytes.size)
    | fuel + 1 =>
      match indexFrom bytes ending start with
      | some i => go (bytes.extract start i :: done) (i + 1) fuel
      | none => (done.reverse, bytes.extract start bytes.size)
  go [] 0 (bytes.size + 1)

/-- A line without its end, and whether it had one. -/
structure Row where
  text : String
  ended : Bool

/-- The lines of some bytes. -/
def rowsOf (bytes : ByteArray) (ending : UInt8) : List Row :=
  let (whole, rest) := cutAt bytes ending
  whole.map (fun b => ⟨Text.octetsOf b, true⟩) ++
    (if rest.size = 0 then [] else [⟨Text.octetsOf rest, false⟩])

/-- The lines of an operand without their ends. -/
def linesOf (bytes : ByteArray) (ending : UInt8) : List String := (rowsOf bytes ending).map (·.text)

/-- Takes the lines of an open file one by one. -/
def eachRow {σ : Type} (fd : Nat) (ending : UInt8) (s : σ) (step : σ → Row → Tool (σ × Bool)) :
    Tool (σ × Option Errno) := do
  let take (s : σ) (row : Row) (going : Bool) : Tool (σ × Bool) := do
    if going then step s row else pure (s, false)
  let ((s, rest, going), fault) ← eachPiece fd (s, ByteArray.empty, true) fun (s, rest, _) bytes => do
    let (whole, rest) := cutAt (rest ++ bytes) ending
    let (s, going) ← whole.foldlM (fun (s, going) b => take s ⟨Text.octetsOf b, true⟩ going) (s, true)
    pure ((s, rest, going), going)
  if going && rest.size ≠ 0 && fault.isNone then
    let (s, _) ← step s ⟨Text.octetsOf rest, false⟩
    pure (s, fault)
  else pure (s, fault)

/-- The ends of lines, unless they are zero bytes. -/
def endingFor (zero : Bool) : UInt8 := if zero then 0 else 10

def endingText (zero : Bool) : String := if zero then "\x00" else "\n"

/-! ### Columns -/

/-- Text with blanks in front, up to a width. -/
def rightAligned (width : Nat) (text : String) : String := "".pushn ' ' (width - text.length) ++ text

def leftAligned (width : Nat) (text : String) : String := text ++ "".pushn ' ' (width - text.length)

end ClientGen.Utility
