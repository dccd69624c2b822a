import Stenotype.Text.CasePairs
import Stenotype.Text.Words

/-!
# Upper and lower case

One character may become several (`ß` is `SS` in upper case). A capital sigma that ends a word
becomes `ς` when a whole text is lowered; a single character is lowered without regard to its
neighbours.
-/

set_option autoImplicit false

namespace Stenotype.Text

/-- The characters that `c` becomes, by the expansions first, then by the spans. -/
def mapCase (expansions : List (List Nat)) (spans : List Span) (c : Char) : Text :=
  match expansions.find? fun row => row.head? == some c.toNat with
  | some row => row.tail.map Char.ofNat
  | none => match lookup? spans c.toNat with
    | some n => [Char.ofNat n]
    | none => [c]

def upperChar (c : Char) : Text :=
  if isAscii c then [c.toUpper] else mapCase upperExpansions upperSpans c

def lowerChar (c : Char) : Text :=
  if isAscii c then [c.toLower] else mapCase lowerExpansions lowerSpans c

def upper (s : Text) : Text := s.flatMap upperChar

def meetsCased (s : Text) : Bool := ((s.dropWhile isCaseIgnorable).head?.map isCased).getD false

/-- Lowers `s`, which follows the characters of `before`, the nearest first. -/
def lowerAfter (before : Text) : Text → Text
  | [] => []
  | c :: r =>
    let image :=
      if c = 'Σ' then
        if meetsCased before && !meetsCased r then ['ς'] else ['σ']
      else lowerChar c
    image ++ lowerAfter (c :: before) r

def lower (s : Text) : Text := lowerAfter [] s

def capitalizeFirst : Text → Text
  | [] => []
  | c :: r => upperChar c ++ r

def lowerFirst : Text → Text
  | [] => []
  | c :: r => lowerChar c ++ r

def titleFrom (atStart : Bool) : Text → Text
  | [] => []
  | c :: r =>
    if isBlank c then c :: titleFrom true r
    else (if atStart then upperChar c else lowerChar c) ++ titleFrom false r

def title (s : Text) : Text := titleFrom true s

def asciiUpper (s : Text) : Text := s.map Char.toUpper

/-- `s` begins with `mark`, capital or small ASCII letters alike; what follows it. -/
def afterStartAnyCase? : Text → Text → Option Text
  | [], s => some s
  | m :: mark, c :: s => if m.toLower = c.toLower then afterStartAnyCase? mark s else none
  | _ :: _, [] => none

end Stenotype.Text
