import Stenotype.Text.Basic

/-!
# Numbers in text

Decimal and hexadecimal digits. Hexadecimal digits are read in either case and written in lower
case.
-/

set_option autoImplicit false

namespace Stenotype.Text

def hexValue? (c : Char) : Option Nat :=
  if '0' ≤ c ∧ c ≤ '9' then some (c.toNat - '0'.toNat)
  else if 'a' ≤ c ∧ c ≤ 'f' then some (c.toNat - 'a'.toNat + 10)
  else if 'A' ≤ c ∧ c ≤ 'F' then some (c.toNat - 'A'.toNat + 10)
  else none

def hexNumber? (digits : Text) : Option Nat :=
  digits.foldlM (fun n c => (hexValue? c).map (16 * n + ·)) 0

def hexDigits (n : Nat) : Text := Nat.toDigits 16 n

def ofNat (n : Nat) : Text := Nat.toDigits 10 n

end Stenotype.Text
