/-!
Texts of octets: every character stands for one byte, its code being the byte's value. Names and
arguments on a machine are such texts, because nothing asks them to be well-formed in an encoding.
-/

namespace ClientGen.Text

def octetsOf (bytes : ByteArray) : String :=
  bytes.foldl (fun s b => s.push (Char.ofNat b.toNat)) ""

/-- Characters past the last octet lose their high bits. -/
def bytesOf (octets : String) : ByteArray :=
  octets.foldl (fun bytes c => bytes.push c.toNat.toUInt8) .empty

/-- The octets of a text's encoding. -/
def spread (text : String) : String := octetsOf text.toUTF8

end ClientGen.Text
