import ClientGen.Digest.Sha

/-!
The BLAKE2b digest, of any length up to 64 bytes.
-/

namespace ClientGen.Digest.Blake

/-- Which words of a block each round takes. -/
def order : Array (Array Nat) :=
  #[#[0, 1, 2, 3, 4, 5, 6, 7, 8, 9, 10, 11, 12, 13, 14, 15],
    #[14, 10, 4, 8, 9, 15, 13, 6, 1, 12, 0, 2, 11, 7, 5, 3],
    #[11, 8, 12, 0, 5, 2, 15, 13, 10, 14, 3, 6, 7, 1, 9, 4],
    #[7, 9, 3, 1, 13, 12, 11, 14, 2, 6, 5, 10, 4, 0, 15, 8],
    #[9, 0, 5, 7, 2, 4, 10, 15, 14, 1, 11, 12, 6, 8, 3, 13],
    #[2, 12, 6, 10, 0, 11, 8, 3, 4, 13, 7, 5, 15, 14, 1, 9],
    #[12, 5, 1, 15, 14, 13, 4, 10, 0, 7, 6, 3, 9, 2, 8, 11],
    #[13, 11, 7, 14, 12, 1, 3, 9, 5, 0, 15, 4, 8, 6, 2, 10],
    #[6, 15, 14, 9, 11, 3, 0, 8, 12, 2, 13, 7, 1, 4, 10, 5],
    #[10, 2, 8, 4, 7, 6, 1, 5, 15, 11, 9, 14, 3, 12, 13, 0]]

def start : Array UInt64 := Sha.start512.toList.toArray

/-- Mixes four words of the state with two of the block. -/
def mix (v : Array UInt64) (a b c d : Nat) (x y : UInt64) : Array UInt64 :=
  let va := at64 v a + at64 v b + x
  let vd := rotateRight64 (at64 v d ^^^ va) 32
  let vc := at64 v c + vd
  let vb := rotateRight64 (at64 v b ^^^ vc) 24
  let va := va + vb + y
  let vd := rotateRight64 (vd ^^^ va) 16
  let vc := vc + vd
  let vb := rotateRight64 (vb ^^^ vc) 63
  (((v.setIfInBounds a va).setIfInBounds b vb).setIfInBounds c vc).setIfInBounds d vd

def lanes : List (Nat × Nat × Nat × Nat) :=
  [(0, 4, 8, 12), (1, 5, 9, 13), (2, 6, 10, 14), (3, 7, 11, 15),
   (0, 5, 10, 15), (1, 6, 11, 12), (2, 7, 8, 13), (3, 4, 9, 14)]

def round (m : Array UInt64) (v : Array UInt64) (i : Nat) : Array UInt64 :=
  let s := (order[i % 10]?).getD #[]
  let word (k : Nat) : UInt64 := at64 m ((s[k]?).getD 0)
  lanes.zipIdx.foldl (fun v ((a, b, c, d), k) => mix v a b c d (word (2 * k)) (word (2 * k + 1))) v

/-- Takes in a block; `count` bytes have come with it, and after the last one no more will. -/
def compress (bytes : ByteArray) (h : Array UInt64) (at_ count : Nat) (last : Bool) : Array UInt64 :=
  let m : Array UInt64 := (Array.range 16).map fun i => word64Little bytes (at_ + 8 * i)
  let v := h ++ start
  let v := v.modify 12 (· ^^^ count.toUInt64)
  let v := if last then v.modify 14 (~~~·) else v
  let v := (List.range 12).foldl (round m) v
  (Array.range 8).map fun i => at64 h i ^^^ at64 v i ^^^ at64 v (i + 8)

def digest (length : Nat) (bytes : ByteArray) : ByteArray :=
  let h := start.modify 0 (· ^^^ (0x01010000 + length).toUInt64)
  let blocks := max 1 ((bytes.size + 127) / 128)
  let h := (List.range blocks).foldl (fun h i =>
    let last := i + 1 = blocks
    compress bytes h (128 * i) (if last then bytes.size else 128 * (i + 1)) last) h
  append .empty ((h.toList.flatMap fun w => bytesLittle 8 w.toNat).take length)

end ClientGen.Digest.Blake
