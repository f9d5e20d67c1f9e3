import ClientGen.Digest.Blocks

/-!
The SHA digests, with words of 32 bits (SHA-1, SHA-224, SHA-256) and of 64 (SHA-384, SHA-512).
-/

namespace ClientGen.Digest.Sha

/-! ### SHA-1 -/

/-- The words of a block, and those made of them. -/
def schedule1 (bytes : ByteArray) (at_ : Nat) : Array UInt32 :=
  let first : Array UInt32 := (Array.range 16).map fun i => word32Big bytes (at_ + 4 * i)
  (List.range 64).foldl (fun w i =>
    w.push (rotateLeft32
      (at32 w (i + 13) ^^^ at32 w (i + 8) ^^^ at32 w (i + 2) ^^^ at32 w i) 1)) first

structure Five where
  a : UInt32
  b : UInt32
  c : UInt32
  d : UInt32
  e : UInt32

def step1 (w : Array UInt32) (s : Five) (i : Nat) : Five :=
  let (f, k) : UInt32 × UInt32 :=
    if i < 20 then ((s.b &&& s.c) ||| (~~~s.b &&& s.d), 0x5a827999)
    else if i < 40 then (s.b ^^^ s.c ^^^ s.d, 0x6ed9eba1)
    else if i < 60 then ((s.b &&& s.c) ||| (s.b &&& s.d) ||| (s.c &&& s.d), 0x8f1bbcdc)
    else (s.b ^^^ s.c ^^^ s.d, 0xca62c1d6)
  ⟨rotateLeft32 s.a 5 + f + s.e + k + at32 w i, s.a, rotateLeft32 s.b 30, s.c, s.d⟩

def compress1 (bytes : ByteArray) (s : Five) (at_ : Nat) : Five :=
  let t := (List.range 80).foldl (step1 (schedule1 bytes at_)) s
  ⟨s.a + t.a, s.b + t.b, s.c + t.c, s.d + t.d, s.e + t.e⟩

def sha1 (bytes : ByteArray) : ByteArray :=
  let all := padded 64 8 true bytes
  let s := overBlocks 64 all ⟨0x67452301, 0xefcdab89, 0x98badcfe, 0x10325476, 0xc3d2e1f0⟩
    (compress1 all)
  ofWords32 [s.a, s.b, s.c, s.d, s.e]

/-! ### Words of 32 bits -/

def constants32 : Array UInt32 :=
  #[
   0x428a2f98, 0x71374491, 0xb5c0fbcf, 0xe9b5dba5, 0x3956c25b, 0x59f111f1, 0x923f82a4, 0xab1c5ed5,
   0xd807aa98, 0x12835b01, 0x243185be, 0x550c7dc3, 0x72be5d74, 0x80deb1fe, 0x9bdc06a7, 0xc19bf174,
   0xe49b69c1, 0xefbe4786, 0x0fc19dc6, 0x240ca1cc, 0x2de92c6f, 0x4a7484aa, 0x5cb0a9dc, 0x76f988da,
   0x983e5152, 0xa831c66d, 0xb00327c8, 0xbf597fc7, 0xc6e00bf3, 0xd5a79147, 0x06ca6351, 0x14292967,
   0x27b70a85, 0x2e1b2138, 0x4d2c6dfc, 0x53380d13, 0x650a7354, 0x766a0abb, 0x81c2c92e, 0x92722c85,
   0xa2bfe8a1, 0xa81a664b, 0xc24b8b70, 0xc76c51a3, 0xd192e819, 0xd6990624, 0xf40e3585, 0x106aa070,
   0x19a4c116, 0x1e376c08, 0x2748774c, 0x34b0bcb5, 0x391c0cb3, 0x4ed8aa4a, 0x5b9cca4f, 0x682e6ff3,
   0x748f82ee, 0x78a5636f, 0x84c87814, 0x8cc70208, 0x90befffa, 0xa4506ceb, 0xbef9a3f7, 0xc67178f2]

/-- Eight words. -/
structure Eight (α : Type) where
  a : α
  b : α
  c : α
  d : α
  e : α
  f : α
  g : α
  h : α

def Eight.toList {α : Type} (s : Eight α) : List α := [s.a, s.b, s.c, s.d, s.e, s.f, s.g, s.h]

def Eight.add {α : Type} [Add α] (s t : Eight α) : Eight α :=
  ⟨s.a + t.a, s.b + t.b, s.c + t.c, s.d + t.d, s.e + t.e, s.f + t.f, s.g + t.g, s.h + t.h⟩

def schedule32 (bytes : ByteArray) (at_ : Nat) : Array UInt32 :=
  let first : Array UInt32 := (Array.range 16).map fun i => word32Big bytes (at_ + 4 * i)
  (List.range 48).foldl (fun w i =>
    let (x, y) := (at32 w (i + 1), at32 w (i + 14))
    let s0 := rotateRight32 x 7 ^^^ rotateRight32 x 18 ^^^ (x >>> 3)
    let s1 := rotateRight32 y 17 ^^^ rotateRight32 y 19 ^^^ (y >>> 10)
    w.push (at32 w i + s0 + at32 w (i + 9) + s1)) first

def step32 (w : Array UInt32) (s : Eight UInt32) (i : Nat) : Eight UInt32 :=
  let s1 := rotateRight32 s.e 6 ^^^ rotateRight32 s.e 11 ^^^ rotateRight32 s.e 25
  let ch := (s.e &&& s.f) ^^^ (~~~s.e &&& s.g)
  let t1 := s.h + s1 + ch + at32 constants32 i + at32 w i
  let s0 := rotateRight32 s.a 2 ^^^ rotateRight32 s.a 13 ^^^ rotateRight32 s.a 22
  let maj := (s.a &&& s.b) ^^^ (s.a &&& s.c) ^^^ (s.b &&& s.c)
  ⟨t1 + s0 + maj, s.a, s.b, s.c, s.d + t1, s.e, s.f, s.g⟩

def compress32 (bytes : ByteArray) (s : Eight UInt32) (at_ : Nat) : Eight UInt32 :=
  s.add ((List.range 64).foldl (step32 (schedule32 bytes at_)) s)

def run32 (start : Eight UInt32) (bytes : ByteArray) : List UInt32 :=
  let all := padded 64 8 true bytes
  (overBlocks 64 all start (compress32 all)).toList

def sha256 (bytes : ByteArray) : ByteArray :=
  ofWords32 (run32 ⟨0x6a09e667, 0xbb67ae85, 0x3c6ef372, 0xa54ff53a, 0x510e527f, 0x9b05688c,
    0x1f83d9ab, 0x5be0cd19⟩ bytes)

def sha224 (bytes : ByteArray) : ByteArray :=
  ofWords32 ((run32 ⟨0xc1059ed8, 0x367cd507, 0x3070dd17, 0xf70e5939, 0xffc00b31, 0x68581511,
    0x64f98fa7, 0xbefa4fa4⟩ bytes).take 7)

/-! ### Words of 64 bits -/

def constants64 : Array UInt64 :=
  #[
   0x428a2f98d728ae22, 0x7137449123ef65cd, 0xb5c0fbcfec4d3b2f, 0xe9b5dba58189dbbc,
   0x3956c25bf348b538, 0x59f111f1b605d019, 0x923f82a4af194f9b, 0xab1c5ed5da6d8118,
   0xd807aa98a3030242, 0x12835b0145706fbe, 0x243185be4ee4b28c, 0x550c7dc3d5ffb4e2,
   0x72be5d74f27b896f, 0x80deb1fe3b1696b1, 0x9bdc06a725c71235, 0xc19bf174cf692694,
   0xe49b69c19ef14ad2, 0xefbe4786384f25e3, 0x0fc19dc68b8cd5b5, 0x240ca1cc77ac9c65,
   0x2de92c6f592b0275, 0x4a7484aa6ea6e483, 0x5cb0a9dcbd41fbd4, 0x76f988da831153b5,
   0x983e5152ee66dfab, 0xa831c66d2db43210, 0xb00327c898fb213f, 0xbf597fc7beef0ee4,
   0xc6e00bf33da88fc2, 0xd5a79147930aa725, 0x06ca6351e003826f, 0x142929670a0e6e70,
   0x27b70a8546d22ffc, 0x2e1b21385c26c926, 0x4d2c6dfc5ac42aed, 0x53380d139d95b3df,
   0x650a73548baf63de, 0x766a0abb3c77b2a8, 0x81c2c92e47edaee6, 0x92722c851482353b,
   0xa2bfe8a14cf10364, 0xa81a664bbc423001, 0xc24b8b70d0f89791, 0xc76c51a30654be30,
   0xd192e819d6ef5218, 0xd69906245565a910, 0xf40e35855771202a, 0x106aa07032bbd1b8,
   0x19a4c116b8d2d0c8, 0x1e376c085141ab53, 0x2748774cdf8eeb99, 0x34b0bcb5e19b48a8,
   0x391c0cb3c5c95a63, 0x4ed8aa4ae3418acb, 0x5b9cca4f7763e373, 0x682e6ff3d6b2b8a3,
   0x748f82ee5defb2fc, 0x78a5636f43172f60, 0x84c87814a1f0ab72, 0x8cc702081a6439ec,
   0x90befffa23631e28, 0xa4506cebde82bde9, 0xbef9a3f7b2c67915, 0xc67178f2e372532b,
   0xca273eceea26619c, 0xd186b8c721c0c207, 0xeada7dd6cde0eb1e, 0xf57d4f7fee6ed178,
   0x06f067aa72176fba, 0x0a637dc5a2c898a6, 0x113f9804bef90dae, 0x1b710b35131c471b,
   0x28db77f523047d84, 0x32caab7b40c72493, 0x3c9ebe0a15c9bebc, 0x431d67c49c100d4c,
   0x4cc5d4becb3e42b6, 0x597f299cfc657e2a, 0x5fcb6fab3ad6faec, 0x6c44198c4a475817]

def schedule64 (bytes : ByteArray) (at_ : Nat) : Array UInt64 :=
  let first : Array UInt64 := (Array.range 16).map fun i => word64Big bytes (at_ + 8 * i)
  (List.range 64).foldl (fun w i =>
    let (x, y) := (at64 w (i + 1), at64 w (i + 14))
    let s0 := rotateRight64 x 1 ^^^ rotateRight64 x 8 ^^^ (x >>> 7)
    let s1 := rotateRight64 y 19 ^^^ rotateRight64 y 61 ^^^ (y >>> 6)
    w.push (at64 w i + s0 + at64 w (i + 9) + s1)) first

def step64 (w : Array UInt64) (s : Eight UInt64) (i : Nat) : Eight UInt64 :=
  let s1 := rotateRight64 s.e 14 ^^^ rotateRight64 s.e 18 ^^^ rotateRight64 s.e 41
  let ch := (s.e &&& s.f) ^^^ (~~~s.e &&& s.g)
  let t1 := s.h + s1 + ch + at64 constants64 i + at64 w i
  let s0 := rotateRight64 s.a 28 ^^^ rotateRight64 s.a 34 ^^^ rotateRight64 s.a 39
  let maj := (s.a &&& s.b) ^^^ (s.a &&& s.c) ^^^ (s.b &&& s.c)
  ⟨t1 + s0 + maj, s.a, s.b, s.c, s.d + t1, s.e, s.f, s.g⟩

def compress64 (bytes : ByteArray) (s : Eight UInt64) (at_ : Nat) : Eight UInt64 :=
  s.add ((List.range 80).foldl (step64 (schedule64 bytes at_)) s)

def run64 (start : Eight UInt64) (bytes : ByteArray) : List UInt64 :=
  let all := padded 128 16 true bytes
  (overBlocks 128 all start (compress64 all)).toList

def start512 : Eight UInt64 :=
  ⟨0x6a09e667f3bcc908, 0xbb67ae8584caa73b, 0x3c6ef372fe94f82b, 0xa54ff53a5f1d36f1,
    0x510e527fade682d1, 0x9b05688c2b3e6c1f, 0x1f83d9abfb41bd6b, 0x5be0cd19137e2179⟩

def start384 : Eight UInt64 :=
  ⟨0xcbbb9d5dc1059ed8, 0x629a292a367cd507, 0x9159015a3070dd17, 0x152fecd8f70e5939,
    0x67332667ffc00b31, 0x8eb44a8768581511, 0xdb0c2e0d64f98fa7, 0x47b5481dbefa4fa4⟩

def sha512 (bytes : ByteArray) : ByteArray := ofWords64 (run64 start512 bytes)

def sha384 (bytes : ByteArray) : ByteArray := ofWords64 ((run64 start384 bytes).take 6)

end ClientGen.Digest.Sha
