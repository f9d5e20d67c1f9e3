/-!
What digests have in common: bytes as words of 32 or 64 bits, and the padding that fills the last
block and tells how long the text was.
-/

namespace ClientGen.Digest

def byteAt (bytes : ByteArray) (i : Nat) : UInt8 := (bytes[i]?).getD 0

def word32Little (bytes : ByteArray) (i : Nat) : UInt32 :=
  (byteAt bytes i).toUInt32 ||| ((byteAt bytes (i + 1)).toUInt32 <<< 8) |||
    ((byteAt bytes (i + 2)).toUInt32 <<< 16) ||| ((byteAt bytes (i + 3)).toUInt32 <<< 24)

def word32Big (bytes : ByteArray) (i : Nat) : UInt32 :=
  (byteAt bytes (i + 3)).toUInt32 ||| ((byteAt bytes (i + 2)).toUInt32 <<< 8) |||
    ((byteAt bytes (i + 1)).toUInt32 <<< 16) ||| ((byteAt bytes i).toUInt32 <<< 24)

def word64Big (bytes : ByteArray) (i : Nat) : UInt64 :=
  ((word32Big bytes i).toUInt64 <<< 32) ||| (word32Big bytes (i + 4)).toUInt64

def word64Little (bytes : ByteArray) (i : Nat) : UInt64 :=
  ((word32Little bytes (i + 4)).toUInt64 <<< 32) ||| (word32Little bytes i).toUInt64

/-- The bytes of a number, the least first. -/
def bytesLittle (count n : Nat) : List UInt8 :=
  match count with
  | 0 => []
  | k + 1 => (n % 256).toUInt8 :: bytesLittle k (n / 256)

def bytesBig (count n : Nat) : List UInt8 := (bytesLittle count n).reverse

def append (bytes : ByteArray) (more : List UInt8) : ByteArray := more.foldl ByteArray.push bytes

/-- One bit, zeros up to the end of a block, and there how many bits the text has. -/
def padded (block lengthBytes : Nat) (big : Bool) (bytes : ByteArray) : ByteArray :=
  let used := (bytes.size + 1 + lengthBytes) % block
  let zeros := (block - used) % block
  let length := if big then bytesBig lengthBytes (8 * bytes.size)
    else bytesLittle lengthBytes (8 * bytes.size)
  append bytes (0x80 :: List.replicate zeros 0 ++ length)

/-- Runs over the blocks, given by where they start. -/
def overBlocks {σ : Type} (block : Nat) (bytes : ByteArray) (s : σ)
    (step : σ → Nat → σ) : σ :=
  (List.range (bytes.size / block)).foldl (fun s i => step s (i * block)) s

def rotateLeft32 (x : UInt32) (n : UInt32) : UInt32 := (x <<< n) ||| (x >>> (32 - n))

def rotateRight32 (x : UInt32) (n : UInt32) : UInt32 := (x >>> n) ||| (x <<< (32 - n))

def rotateRight64 (x : UInt64) (n : UInt64) : UInt64 := (x >>> n) ||| (x <<< (64 - n))

def at32 (a : Array UInt32) (i : Nat) : UInt32 := (a[i]?).getD 0

def at64 (a : Array UInt64) (i : Nat) : UInt64 := (a[i]?).getD 0

/-- A digest as bytes: its words, each with its greatest byte first. -/
def ofWords32 (ws : List UInt32) : ByteArray :=
  append .empty (ws.flatMap fun w => bytesBig 4 w.toNat)

def ofWords64 (ws : List UInt64) : ByteArray :=
  append .empty (ws.flatMap fun w => bytesBig 8 w.toNat)

/-- Bytes in two hexadecimal digits each. -/
def hexadecimal (bytes : ByteArray) : String :=
  String.ofList (bytes.toList.flatMap fun b =>
    [Nat.digitChar (b.toNat / 16), Nat.digitChar (b.toNat % 16)])

end ClientGen.Digest
