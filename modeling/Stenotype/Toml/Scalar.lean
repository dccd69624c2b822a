import Stenotype.Toml.Basic
import Stenotype.Text.Hex
import Stenotype.Decimal.Binary64

/-!
# Strings, numbers and dates

Readers for the values that have no parts. Each takes the text at the start of a value and gives
the value with the rest of the text.
-/

set_option autoImplicit false

namespace Stenotype.Toml

def isSpace (c : Char) : Bool := c = ' ' || c = '\t'

def isVisible (c : Char) : Bool := c = '\t' || (0x20 ≤ c.toNat && c.toNat ≠ 0x7f)

def dropSpaces (s : Text) : Text := s.dropWhile isSpace

def afterNewline? : Text → Option Text
  | '\n' :: r => some r
  | '\r' :: '\n' :: r => some r
  | _ => none

def escape? : Char → Option Char
  | 'b' => some '\x08'
  | 't' => some '\t'
  | 'n' => some '\n'
  | 'f' => some '\x0c'
  | 'r' => some '\r'
  | '"' => some '"'
  | '\\' => some '\\'
  | _ => none

def scalar? (digits : Text) : Option Char :=
  (Text.hexNumber? digits).bind fun n => if n.isValidChar then some (Char.ofNat n) else none

def consTo (c : Char) (r : Option (Text × Text)) : Option (Text × Text) :=
  r.map fun (s, rest) => (c :: s, rest)

def readBasic : Text → Option (Text × Text)
  | [] => none
  | '"' :: r => some ([], r)
  | '\\' :: 'u' :: a :: b :: c :: d :: r =>
    (scalar? [a, b, c, d]).bind fun x => consTo x (readBasic r)
  | '\\' :: 'U' :: a :: b :: c :: d :: e :: f :: g :: h :: r =>
    (scalar? [a, b, c, d, e, f, g, h]).bind fun x => consTo x (readBasic r)
  | '\\' :: e :: r => (escape? e).bind fun x => consTo x (readBasic r)
  | c :: r => if isVisible c && c ≠ '\\' then consTo c (readBasic r) else none

def endsLine (s : Text) : Bool := (afterNewline? (dropSpaces s)).isSome

/-- The rest of a string in three double quotes; `skipping` after a backslash that ends a line. -/
def readMultiBasic (skipping : Bool) : Text → Option (Text × Text)
  | [] => none
  | '"' :: '"' :: '"' :: '"' :: '"' :: r => some (['"', '"'], r)
  | '"' :: '"' :: '"' :: '"' :: r => some (['"'], r)
  | '"' :: '"' :: '"' :: r => some ([], r)
  | '\r' :: '\n' :: r =>
    if skipping then readMultiBasic true r else consTo '\n' (readMultiBasic false r)
  | '\\' :: 'u' :: a :: b :: c :: d :: r =>
    (scalar? [a, b, c, d]).bind fun x => consTo x (readMultiBasic false r)
  | '\\' :: 'U' :: a :: b :: c :: d :: e :: f :: g :: h :: r =>
    (scalar? [a, b, c, d, e, f, g, h]).bind fun x => consTo x (readMultiBasic false r)
  | '\\' :: e :: r =>
    if endsLine (e :: r) then readMultiBasic true (e :: r)
    else (escape? e).bind fun x => consTo x (readMultiBasic false r)
  | c :: r =>
    if skipping && (isSpace c || c = '\n') then readMultiBasic true r
    else if (isVisible c || c = '\n') && c ≠ '\\' then consTo c (readMultiBasic false r)
    else none

def readLiteral : Text → Option (Text × Text)
  | [] => none
  | '\'' :: r => some ([], r)
  | c :: r => if isVisible c then consTo c (readLiteral r) else none

def readMultiLiteral : Text → Option (Text × Text)
  | [] => none
  | '\'' :: '\'' :: '\'' :: '\'' :: '\'' :: r => some (['\'', '\''], r)
  | '\'' :: '\'' :: '\'' :: '\'' :: r => some (['\''], r)
  | '\'' :: '\'' :: '\'' :: r => some ([], r)
  | '\r' :: '\n' :: r => consTo '\n' (readMultiLiteral r)
  | c :: r => if isVisible c || c = '\n' then consTo c (readMultiLiteral r) else none

/-- A line end right after the opening quotes does not count. -/
def dropFirstNewline (s : Text) : Text := (afterNewline? s).getD s

def readString (s : Text) : Option (Text × Text) :=
  match s with
  | '"' :: '"' :: '"' :: r => readMultiBasic false (dropFirstNewline r)
  | '"' :: r => readBasic r
  | '\'' :: '\'' :: '\'' :: r => readMultiLiteral (dropFirstNewline r)
  | '\'' :: r => readLiteral r
  | _ => none

/-- Further digits; an underscore has to stand between two. -/
def readDigits (isDigit : Char → Bool) : Text → Option (Text × Text)
  | [] => some ([], [])
  | '_' :: c :: r => if isDigit c then consTo c (readDigits isDigit r) else none
  | c :: r =>
    if isDigit c then consTo c (readDigits isDigit r)
    else if c = '_' then none
    else some ([], c :: r)

def readDigits1 (isDigit : Char → Bool) (s : Text) : Option (Text × Text) :=
  match s with
  | c :: r => if isDigit c then consTo c (readDigits isDigit r) else none
  | [] => none

def inRange (n : Int) : Bool := -Int.pow 2 63 ≤ n && n < Int.pow 2 63

def readRadix (base : Nat) (s : Text) : Option (Toml × Text) := do
  let (digits, r) ← readDigits1 (fun c => ((Text.hexValue? c).any (· < base))) s
  let n := digits.foldl (fun n c => base * n + (Text.hexValue? c).getD 0) 0
  if inRange n then some (integer n, r) else none

def readWhole (s : Text) : Option (Text × Text) :=
  match s with
  | '0' :: r => some (['0'], r)
  | s => readDigits1 Char.isDigit s

def readExponent (s : Text) : Option (Int × Text) := do
  let (negative, s) := Decimal.readSign s
  let (digits, r) ← readDigits1 Char.isDigit s
  let n : Int := Decimal.valueOf digits
  some (if negative then -n else n, r)

/-- A fraction whose whole part has been read; a number too large for a float is none. -/
def finishFloat (negative : Bool) (whole fraction : Text) (exponent : Int) (r : Text) :
    Option (Toml × Text) :=
  let value : Decimal.Scientific :=
    ⟨negative, Decimal.valueOf (whole ++ fraction), exponent - fraction.length⟩
  if negative || (Decimal.Binary64.ofScientific? value).isSome then some (float, r) else none

def isExponentMark (c : Char) : Bool := c = 'e' || c = 'E'

def readDecimal (s : Text) : Option (Toml × Text) := do
  let (negative, s) := Decimal.readSign s
  if Text.afterStart? ['i', 'n', 'f'] s |>.isSome then some (float, s.drop 3)
  else if Text.afterStart? ['n', 'a', 'n'] s |>.isSome then some (float, s.drop 3)
  else
    let (whole, r) ← readWhole s
    match r with
    | '.' :: r =>
      let (fraction, r) ← readDigits1 Char.isDigit r
      match r with
      | c :: t =>
        if isExponentMark c then
          let (e, t) ← readExponent t
          finishFloat negative whole fraction e t
        else finishFloat negative whole fraction 0 r
      | [] => finishFloat negative whole fraction 0 []
    | c :: t =>
      if isExponentMark c then
        let (e, t) ← readExponent t
        finishFloat negative whole [] e t
      else
        let n : Int := Decimal.valueOf whole
        let n := if negative then -n else n
        if inRange n then some (integer n, r) else none
    | [] =>
      let n : Int := Decimal.valueOf whole
      let n := if negative then -n else n
      if inRange n then some (integer n, []) else none

def readField (n lo hi : Nat) (s : Text) : Option (Nat × Text) :=
  let digits := s.take n
  if digits.length = n && digits.all Char.isDigit then
    let v := Decimal.valueOf digits
    if lo ≤ v && v ≤ hi then some (v, s.drop n) else none
  else none

def expect (c : Char) : Text → Option Text
  | d :: r => if c = d then some r else none
  | [] => none

def daysInMonth (year month : Nat) : Nat :=
  if month = 2 then
    if year % 4 = 0 && (year % 100 ≠ 0 || year % 400 = 0) then 29 else 28
  else if month = 4 || month = 6 || month = 9 || month = 11 then 30
  else 31

def readMonthAndDay (year : Nat) (s : Text) : Option Text := do
  let (month, s) ← readField 2 1 12 s
  let s ← expect '-' s
  let (_, s) ← readField 2 1 (daysInMonth year month) s
  some s

def dropSecondFraction (s : Text) : Text :=
  match s with
  | '.' :: c :: r => if c.isDigit then r.dropWhile Char.isDigit else s
  | s => s

def readMinuteAndSecond (s : Text) : Option Text := do
  let (_, s) ← readField 2 0 59 s
  let s ← expect ':' s
  let (_, s) ← readField 2 0 60 s
  some (dropSecondFraction s)

def readHour? (s : Text) : Option Text := do
  let (_, s) ← readField 2 0 23 s
  expect ':' s

def readOffset (s : Text) : Option Text :=
  match s with
  | c :: r =>
    if c = 'Z' || c = 'z' then some r
    else if c = '+' || c = '-' then do
      let s ← readHour? r
      let (_, s) ← readField 2 0 59 s
      some s
    else some s
  | [] => some []

def readTimeOfDate (s : Text) : Option Text :=
  match s with
  | c :: r =>
    if c = 'T' || c = 't' || c = ' ' then
      match readHour? r with
      | some r => (readMinuteAndSecond r).bind readOffset
      | none => some s
    else some s
  | [] => some []

def readYear? (s : Text) : Option (Nat × Text) := do
  let (year, s) ← readField 4 0 9999 s
  let s ← expect '-' s
  some (year, s)

def readNumber (s : Text) : Option (Toml × Text) :=
  match readYear? s with
  | some (year, r) =>
    ((readMonthAndDay year r).bind readTimeOfDate).map fun r => (datetime, r)
  | none =>
    match readHour? s with
    | some r => (readMinuteAndSecond r).map fun r => (datetime, r)
    | none =>
      match s with
      | '0' :: 'x' :: r => readRadix 16 r
      | '0' :: 'o' :: r => readRadix 8 r
      | '0' :: 'b' :: r => readRadix 2 r
      | s => readDecimal s

end Stenotype.Toml
