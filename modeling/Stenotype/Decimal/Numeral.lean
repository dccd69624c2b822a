import Stenotype.Text.Quoted

/-!
# Numerals

Whole numbers and decimal fractions as they are written in digits, and digits in groups of three.
-/

set_option autoImplicit false

namespace Stenotype.Decimal

def digitValue (c : Char) : Nat := c.toNat - '0'.toNat

def valueOf (digits : Text) : Nat := digits.foldl (fun n c => 10 * n + digitValue c) 0

def readSign : Text → Bool × Text
  | '-' :: r => (true, r)
  | '+' :: r => (false, r)
  | s => (false, s)

/-- A whole number: digits, maybe after a sign. -/
def integer? (s : Text) : Option Int :=
  let (negative, digits) := readSign s
  if digits.isEmpty || !digits.all Char.isDigit then none
  else some (if negative then -(valueOf digits : Int) else valueOf digits)

def ofInt : Int → Text
  | .ofNat n => Text.ofNat n
  | .negSucc n => '-' :: Text.ofNat (n + 1)

/-- The number `± digits * 10 ^ exponent`. -/
structure Scientific where
  negative : Bool
  digits : Nat
  exponent : Int

def readExponent : Text → Option Int
  | [] => some 0
  | c :: r => if c = 'e' || c = 'E' then integer? r else none

/-- A decimal fraction: digits with at most one point among or around them, maybe with a sign and
an exponent. -/
def scientific? (s : Text) : Option Scientific :=
  let (negative, s) := readSign s
  let whole := s.takeWhile Char.isDigit
  let (fraction, rest) := match s.drop whole.length with
    | '.' :: r => (r.takeWhile Char.isDigit, r.dropWhile Char.isDigit)
    | r => ([], r)
  if whole.isEmpty && fraction.isEmpty then none
  else (readExponent rest).map fun e => ⟨negative, valueOf (whole ++ fraction), e - fraction.length⟩

/-- Digits with a comma before every group of three, counted from the right. -/
def group : Text → Text
  | [] => []
  | c :: r => if r.length % 3 = 0 && !r.isEmpty then c :: ',' :: group r else c :: group r

theorem filter_group (s : Text) (h : ',' ∉ s) : (group s).filter (· ≠ ',') = s := by
  induction s with
  | nil => rfl
  | cons c r ih =>
    simp only [List.mem_cons, not_or] at h
    have rest := ih h.2
    rw [group]
    split <;> simp_all [Ne.symm h.1]

def groupSigned (s : Text) : Text :=
  let (sign, unsigned) := match s with
    | '-' :: r => (['-'], r)
    | r => ([], r)
  let whole := unsigned.takeWhile (· ≠ '.')
  sign ++ group whole ++ unsigned.drop whole.length

end Stenotype.Decimal
