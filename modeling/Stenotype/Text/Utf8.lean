import Stenotype.Text.Basic

/-!
# Text as bytes

UTF-8 with a replacement character for every longest run of bytes that begins a character but does
not end it, and for every byte that begins none.
-/

set_option autoImplicit false

namespace Stenotype.Text

/-- How many bytes follow the lead byte `b`, and between what the first of them has to be. -/
def leadByte? (b : UInt8) : Option (Nat × UInt8 × UInt8) :=
  if 0xc2 ≤ b && b ≤ 0xdf then some (1, 0x80, 0xbf)
  else if b = 0xe0 then some (2, 0xa0, 0xbf)
  else if b = 0xed then some (2, 0x80, 0x9f)
  else if 0xe1 ≤ b && b ≤ 0xef then some (2, 0x80, 0xbf)
  else if b = 0xf0 then some (3, 0x90, 0xbf)
  else if 0xf1 ≤ b && b ≤ 0xf3 then some (3, 0x80, 0xbf)
  else if b = 0xf4 then some (3, 0x80, 0x8f)
  else none

/-- The continuation bytes at the start, at most `n`, the first between the given bounds. -/
def continuation : Nat → UInt8 → UInt8 → List UInt8 → List UInt8
  | n + 1, lo, hi, b :: bs => if lo ≤ b && b ≤ hi then b :: continuation n 0x80 0xbf bs else []
  | _, _, _, _ => []

/-- Decodes the bytes, with skips over those that have been read. -/
def decodeFrom : Nat → List UInt8 → Text
  | _, [] => []
  | skip + 1, _ :: bs => decodeFrom skip bs
  | 0, b :: bs =>
    if b < 0x80 then Char.ofNat b.toNat :: decodeFrom 0 bs
    else match leadByte? b with
      | none => '\ufffd' :: decodeFrom 0 bs
      | some (n, lo, hi) =>
        let tail := continuation n lo hi bs
        if tail.length = n then
          let lead := b.toNat % 2 ^ (6 - n)
          Char.ofNat (tail.foldl (fun v t => 64 * v + t.toNat % 64) lead) :: decodeFrom n bs
        else '\ufffd' :: decodeFrom tail.length bs

def ofUtf8Lossy (bs : List UInt8) : String := String.ofList (decodeFrom 0 bs)

def ofUtf8? (bs : List UInt8) : Option Text :=
  (String.fromUTF8? ⟨bs.toArray⟩).map String.toList

end Stenotype.Text
