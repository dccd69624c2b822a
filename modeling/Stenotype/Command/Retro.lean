import Stenotype.Command.Basic
import Stenotype.Decimal.Binary64

/-!
# Looking back

Commands that change what has been typed already: the case of the last word, its form as an amount,
and the separator before it.
-/

set_option autoImplicit false

namespace Stenotype
namespace Context

def retroCase (c : Context) (case : LetterCase) : Action :=
  let a := { c.copyLast with prevAttach := true }
  match c.lastWordWithTail? with
  | none => a
  | some (word, tail) =>
    let cased := LetterCase.apply (some case) false word
    { a with
      replace := word ++ tail, text := cased ++ tail, word := cased
      upperCarry := a.upperCarry || case == .upper }

/-- A number as an amount: whole numbers of up to 127 bits keep their digits, others get two
places. -/
def amount? (number : Text) : Option Text :=
  let fraction := ((Decimal.scientific? number).bind Decimal.twoPlaces?).map Decimal.groupSigned
  match Decimal.integer? number with
  | some n => if -Int.pow 2 127 ≤ n ∧ n < Int.pow 2 127 then some (Decimal.groupSigned (Decimal.ofInt n)) else fraction
  | none => fraction

def retroCurrency (c : Context) (form : Text) : Action :=
  match c.lastWordWithTail? with
  | none => c.copyLast
  | some (word, tail) =>
    match amount? (Text.substitute ',' [] word) with
    | none => c.copyLast
    | some amount =>
      { c.copyLast with
        prevAttach := true, replace := word ++ tail
        text := Text.substitute 'c' amount form ++ tail, word := [] }

def deleteSpace (c : Context) : Action :=
  match c.lastWordWithTail? with
  | none => c.copyLast
  | some (word, tail) =>
    let head := Text.dropLast (word.length + tail.length) c.output
    let before := Text.trimEnd head
    let sep := Text.trailingBlanks head
    if before.isEmpty || sep.isEmpty then c.copyLast
    else
      { c.copyLast with
        prevAttach := true, replace := sep ++ word ++ tail, text := word ++ tail
        word := Text.rightmostWord before ++ word }

/-- Puts a separator before the last action if that was attached. -/
def insertSpace (c : Context) : Action :=
  if c.last.prevAttach && !c.last.text.isEmpty && Text.endsWith c.last.text c.output then
    { c.copyLast with replace := c.last.text, text := c.last.spaceChar ++ c.last.text }
  else c.copyLast

end Context
end Stenotype
