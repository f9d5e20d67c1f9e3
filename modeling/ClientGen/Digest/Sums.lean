import ClientGen.Digest.Blocks

/-!
Short sums of bytes: the cyclic redundancy check with the length behind the bytes, and two older ones.
-/

namespace ClientGen.Digest.Sums

def polynomial : UInt32 := 0x04c11db7

def shift (r : UInt32) : UInt32 :=
  if r &&& 0x80000000 != 0 then (r <<< 1) ^^^ polynomial else r <<< 1

/-- The remainder of each byte in front of three zero bytes. -/
def table : Array UInt32 :=
  (Array.range 256).map fun (i : Nat) =>
    (List.range 8).foldl (fun (r : UInt32) _ => shift r) (UInt32.ofNat i <<< 24)

def crcStep (r : UInt32) (b : UInt8) : UInt32 :=
  (r <<< 8) ^^^ at32 table (((r >>> 24) ^^^ b.toUInt32) &&& 0xff).toNat

/-- The bytes of a length, the least first, without zeros at the end. -/
def lengthBytes : Nat → Nat → List UInt8
  | 0, _ => []
  | fuel + 1, n => if n = 0 then [] else (n % 256).toUInt8 :: lengthBytes fuel (n / 256)

def crc (bytes : ByteArray) : UInt32 :=
  ~~~((lengthBytes 16 bytes.size).foldl crcStep (bytes.foldl crcStep 0))

/-- Every byte is added after a rotation to the right by one bit. -/
def rotating (bytes : ByteArray) : Nat :=
  bytes.foldl (fun s b => ((s / 2 + s % 2 * 32768) + b.toNat) % 65536) 0

/-- The sum of all bytes, folded to 16 bits. -/
def plain (bytes : ByteArray) : Nat :=
  let s := bytes.foldl (fun s b => s + b.toNat) 0 % 4294967296
  let r := s % 65536 + s / 65536
  r % 65536 + r / 65536

end ClientGen.Digest.Sums
