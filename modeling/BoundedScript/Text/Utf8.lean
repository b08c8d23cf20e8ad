set_option autoImplicit false

namespace BoundedScript.Text

abbrev Bytes := List UInt8

def bytesOf (s : String) : Bytes :=
  s.toUTF8.toList

def ofBytes? (bytes : Bytes) : Option String :=
  String.fromUTF8? bytes.toByteArray

def leadShape (b : UInt8) : Option (Nat × UInt8 × UInt8) :=
  if b < 0xc2 then none
  else if b < 0xe0 then some (1, 0x80, 0xbf)
  else if b == 0xe0 then some (2, 0xa0, 0xbf)
  else if b == 0xed then some (2, 0x80, 0x9f)
  else if b < 0xf0 then some (2, 0x80, 0xbf)
  else if b == 0xf0 then some (3, 0x90, 0xbf)
  else if b < 0xf4 then some (3, 0x80, 0xbf)
  else if b == 0xf4 then some (3, 0x80, 0x8f)
  else none

inductive Decoded where
  | char (c : Char) (length : Nat)
  | malformed (length : Nat)

def decodeTail (code : Nat) : (more : Nat) → (low high : UInt8) → (length : Nat) → Bytes → Decoded
  | 0, _, _, length, _ => .char (Char.ofNat code) length
  | _ + 1, _, _, length, [] => .malformed length
  | more + 1, low, high, length, b :: rest =>
    if low ≤ b && b ≤ high then
      decodeTail (code * 64 + (b.toNat - 0x80)) more 0x80 0xbf (length + 1) rest
    else .malformed length

def decodeFront (b : UInt8) (rest : Bytes) : Decoded :=
  if b < 0x80 then .char (Char.ofNat b.toNat) 1
  else match leadShape b with
    | none => .malformed 1
    | some (more, low, high) =>
      let lead := b.toNat - (if more == 1 then 0xc0 else if more == 2 then 0xe0 else 0xf0)
      decodeTail lead more low high 1 rest

/-- The characters of `bytes`, each malformed piece replaced by U+FFFD. `skip` bytes belong to what was
read last. -/
def lossyFrom : (skip : Nat) → Bytes → List Char
  | _, [] => []
  | skip + 1, _ :: rest => lossyFrom skip rest
  | 0, b :: rest =>
    match decodeFront b rest with
    | .char c length => c :: lossyFrom (length - 1) rest
    | .malformed length => '\ufffd' :: lossyFrom (length - 1) rest

def lossy (bytes : Bytes) : String :=
  String.ofList (lossyFrom 0 bytes)

end BoundedScript.Text
