/-!
Reading bytes as UTF-8. `decode?` accepts well-formed sequences only; `decodeLossy` accepts every
byte sequence and writes one U+FFFD for each maximal prefix of a well-formed character that is not
completed, and one for each byte that starts none.
-/

namespace ClientGen.Text

def decode? (b : ByteArray) : Option String := String.fromUTF8? b

def replacement : Char := '\uFFFD'

/-- The bytes that may follow a lead byte, and how many tail bytes come after that one. -/
def secondByte (lead : UInt8) : Option (UInt8 × UInt8 × Nat) :=
  if 0xC2 ≤ lead && lead ≤ 0xDF then some (0x80, 0xBF, 0)
  else if lead == 0xE0 then some (0xA0, 0xBF, 1)
  else if lead == 0xED then some (0x80, 0x9F, 1)
  else if 0xE1 ≤ lead && lead ≤ 0xEF then some (0x80, 0xBF, 1)
  else if lead == 0xF0 then some (0x90, 0xBF, 2)
  else if 0xF1 ≤ lead && lead ≤ 0xF3 then some (0x80, 0xBF, 2)
  else if lead == 0xF4 then some (0x80, 0x8F, 2)
  else none

/-- Reads `owed` tail bytes onto the bits in `value`. The rest is what follows the bytes taken. -/
def tailBytes (value : Nat) : Nat → List UInt8 → Option Char × List UInt8
  | 0, rest => (some (Char.ofNat value), rest)
  | _ + 1, [] => (none, [])
  | owed + 1, b :: rest =>
    if 0x80 ≤ b && b ≤ 0xBF then tailBytes (value * 64 + (b.toNat - 0x80)) owed rest
    else (none, b :: rest)

/-- One character from a lead byte and what follows; `none` is an unfinished or a wrong one. -/
def character (lead : UInt8) (rest : List UInt8) : Option Char × List UInt8 :=
  if lead < 0x80 then (some (Char.ofNat lead.toNat), rest)
  else match secondByte lead, rest with
    | some (low, high, owed), b :: after =>
      if low ≤ b && b ≤ high then
        let leadBits := if owed == 0 then lead.toNat - 0xC0
          else if owed == 1 then lead.toNat - 0xE0 else lead.toNat - 0xF0
        tailBytes (leadBits * 64 + (b.toNat - 0x80)) owed after
      else (none, rest)
    | _, _ => (none, rest)

theorem length_tailBytes_le (value owed : Nat) (bs : List UInt8) :
    (tailBytes value owed bs).2.length ≤ bs.length := by
  fun_induction tailBytes value owed bs <;> simp_all
  omega

theorem length_character_le (lead : UInt8) (rest : List UInt8) :
    (character lead rest).2.length ≤ rest.length := by
  unfold character
  split
  · exact Nat.le_refl _
  · split
    · split
      · exact Nat.le_succ_of_le (length_tailBytes_le _ _ _)
      · exact Nat.le_refl _
    · exact Nat.le_refl _

/-- The characters of `bs` in reverse, put before `done`. -/
def lossyOnto (done : List Char) : List UInt8 → List Char
  | [] => done
  | lead :: rest =>
    lossyOnto ((character lead rest).1.getD replacement :: done) (character lead rest).2
  termination_by bs => bs.length
  decreasing_by
    have := length_character_le lead rest
    simp only [List.length_cons]
    omega

def decodeLossy (b : ByteArray) : String := String.ofList (lossyOnto [] b.data.toList).reverse

end ClientGen.Text
