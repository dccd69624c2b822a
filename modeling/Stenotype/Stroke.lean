import Stenotype.Text.Quoted

/-!
# Strokes

A stroke is a chord of keys. A key stands on the left or the right bank, or belongs to neither;
its name carries a hyphen on the side of the keyboard it is turned away from. A chord is written as
its keys in steno order, with one hyphen between the banks where nothing else tells them apart.
-/

set_option autoImplicit false

namespace Stenotype

inductive Side
  | left
  | centre
  | right
  deriving DecidableEq, Repr

/-- What a key says on the paper: a key of the board, or a digit that the number bar turned it
into. -/
structure Key where
  side : Side
  symbol : Char
  deriving DecidableEq, Repr

namespace Key

def name (k : Key) : Text :=
  match k.side with
  | .left => [k.symbol, '-']
  | .centre => [k.symbol]
  | .right => ['-', k.symbol]

def numberBar : Key := ⟨.centre, '#'⟩

def star : Key := ⟨.centre, '*'⟩

def onLeft (symbols : String) : List Key := symbols.toList.map fun c => ⟨.left, c⟩

def onRight (symbols : String) : List Key := symbols.toList.map fun c => ⟨.right, c⟩

def board : List Key :=
  numberBar :: onLeft "STKPWHRAO" ++ star :: onRight "EUFRPBLGTSDZ"

def ofName? (name : Text) : Option Key := board.find? fun k => k.name == name

def numeral? (k : Key) : Option Char :=
  match k.side, k.symbol with
  | .left, 'S' => some '1'
  | .left, 'T' => some '2'
  | .left, 'P' => some '3'
  | .left, 'H' => some '4'
  | .left, 'A' => some '5'
  | .left, 'O' => some '0'
  | .right, 'F' => some '6'
  | .right, 'P' => some '7'
  | .right, 'L' => some '8'
  | .right, 'T' => some '9'
  | _, _ => none

def withNumberBar (k : Key) : Key := { k with symbol := k.numeral?.getD k.symbol }

/-- Vowels, their digits and the star stand between the banks, so no hyphen is needed after
them. -/
def dividesBanks (k : Key) : Bool :=
  match k.side, k.symbol with
  | .left, 'A' | .left, 'O' | .left, '5' | .left, '0' => true
  | .centre, '*' => true
  | .right, 'E' | .right, 'U' => true
  | _, _ => false

def spell (divided : Bool) : List Key → Text
  | [] => []
  | k :: ks =>
    let divided := divided || k.dividesBanks
    match k.side with
    | .right => (if divided then [k.symbol] else ['-', k.symbol]) ++ spell true ks
    | _ => k.symbol :: spell divided ks

end Key

structure Stroke where
  /-- The keys in steno order, if the stroke was made of keys. -/
  keys : List Key
  outline : Text
  deriving DecidableEq, Repr

namespace Stroke

structure UnknownKey where
  name : Text
  deriving DecidableEq, Repr

def UnknownKey.message (e : UnknownKey) : Text := "unknown steno key ".toList ++ Text.quoted e.name

/-- The keys that a set of board keys types: the bar is spent if it makes a digit. -/
def applyNumberBar (ks : List Key) : List Key :=
  if Key.numberBar ∈ ks then
    if ks.any fun k => k.numeral?.isSome then
      (ks.filter (· ≠ Key.numberBar)).map Key.withNumberBar
    else ks
  else ks

/-- The chord of the given keys: sorted, each once. -/
def ofChord (ks : List Key) : Stroke :=
  let keys := applyNumberBar (Key.board.filter (· ∈ ks))
  ⟨keys, Key.spell false keys⟩

/-- The chord of the keys with the given names, the first unknown name being an error. -/
def ofKeyNames (names : List Text) : Except UnknownKey Stroke := do
  let ks ← names.mapM fun n =>
    match Key.ofName? n with
    | some k => .ok k
    | none => .error ⟨n⟩
  return ofChord ks

/-- A stroke of which only the written form is known. -/
def ofOutline (outline : Text) : Stroke := ⟨[], outline⟩

def isCorrection (s : Stroke) : Bool := s.outline == ['*']

end Stroke
end Stenotype
