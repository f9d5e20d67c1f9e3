import ClientGen.Digest.Sha

/-!
The SM3 digest.
-/

namespace ClientGen.Digest.Sm3

def start : Sha.Eight UInt32 :=
  ⟨0x7380166f, 0x4914b2b9, 0x172442d7, 0xda8a0600, 0xa96f30bc, 0x163138aa, 0xe38dee4d, 0xb0fb0e4e⟩

def spread1 (x : UInt32) : UInt32 := x ^^^ rotateLeft32 x 15 ^^^ rotateLeft32 x 23

def spread0 (x : UInt32) : UInt32 := x ^^^ rotateLeft32 x 9 ^^^ rotateLeft32 x 17

def schedule (bytes : ByteArray) (at_ : Nat) : Array UInt32 :=
  let first : Array UInt32 := (Array.range 16).map fun i => word32Big bytes (at_ + 4 * i)
  (List.range 52).foldl (fun w i =>
    w.push (spread1 (at32 w i ^^^ at32 w (i + 7) ^^^ rotateLeft32 (at32 w (i + 13)) 15) ^^^
      rotateLeft32 (at32 w (i + 3)) 7 ^^^ at32 w (i + 10))) first

def turned (x : UInt32) (n : Nat) : UInt32 :=
  if n % 32 = 0 then x else rotateLeft32 x (n % 32).toUInt32

def step (w : Array UInt32) (s : Sha.Eight UInt32) (i : Nat) : Sha.Eight UInt32 :=
  let t : UInt32 := if i < 16 then 0x79cc4519 else 0x7a879d8a
  let s1 := rotateLeft32 (rotateLeft32 s.a 12 + s.e + turned t i) 7
  let s2 := s1 ^^^ rotateLeft32 s.a 12
  let ff := if i < 16 then s.a ^^^ s.b ^^^ s.c
    else (s.a &&& s.b) ||| (s.a &&& s.c) ||| (s.b &&& s.c)
  let gg := if i < 16 then s.e ^^^ s.f ^^^ s.g else (s.e &&& s.f) ||| (~~~s.e &&& s.g)
  let t1 := ff + s.d + s2 + (at32 w i ^^^ at32 w (i + 4))
  let t2 := gg + s.h + s1 + at32 w i
  ⟨t1, s.a, rotateLeft32 s.b 9, s.c, spread0 t2, s.e, rotateLeft32 s.f 19, s.g⟩

def compress (bytes : ByteArray) (s : Sha.Eight UInt32) (at_ : Nat) : Sha.Eight UInt32 :=
  let t := (List.range 64).foldl (step (schedule bytes at_)) s
  ⟨s.a ^^^ t.a, s.b ^^^ t.b, s.c ^^^ t.c, s.d ^^^ t.d, s.e ^^^ t.e, s.f ^^^ t.f, s.g ^^^ t.g,
    s.h ^^^ t.h⟩

def digest (bytes : ByteArray) : ByteArray :=
  let all := padded 64 8 true bytes
  ofWords32 (overBlocks 64 all start (compress all)).toList

end ClientGen.Digest.Sm3
