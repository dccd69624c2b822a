import Stenotype.Pattern.Basic
import Stenotype.Text.Case

/-!
# Actions

An action is one step of output: the text to take back, the text to type, a key combination or a
command to send, and the state that it hands to the next action. Where the step depends on what
comes next, both actions are kept in a lookahead until that is known.
-/

set_option autoImplicit false

namespace Stenotype

inductive LetterCase
  | capFirstWord
  | lowerFirstChar
  | upper
  | lower
  | title
  deriving DecidableEq, Repr

/-- `s` in the given case. Title case does not reach into text that goes on a word. -/
def LetterCase.apply (case : Option LetterCase) (goesOn : Bool) (s : Text) : Text :=
  match case with
  | none => s
  | some .upper => Text.upper s
  | some .lower => Text.lower s
  | some .title => if goesOn then s else Text.title s
  | some .capFirstWord => Text.capitalizeFirst s
  | some .lowerFirstChar => Text.lowerFirst s

structure Action where
  /-- Typed after `replace` has been taken back. -/
  text : Text := []
  /-- The word that the output ends with, for suffixes to join. -/
  word : Text := []
  /-- The end of the output that is taken back. -/
  replace : Text := []
  prevAttach : Bool := false
  nextAttach : Bool := false
  glue : Bool := false
  capitalize : Bool := false
  lower : Bool := false
  upper : Bool := false
  upperCarry : Bool := false
  case : Option LetterCase := none
  spaceChar : Text := [' ']
  command : Option Text := none
  combo : Option Text := none
  /-- Suffix rules may reach across. -/
  orthography : Bool := true
  wordIsFinished : Bool := true
  deriving DecidableEq, Repr

namespace Action

def start (capitalized attached : Bool) : Action :=
  { capitalize := capitalized, nextAttach := attached }

def following (a : Action) : Action := { case := a.case, spaceChar := a.spaceChar }

/-- The state of `a`, with nothing of its output. -/
def silentCopy (a : Action) : Action :=
  { a with text := [], replace := [], prevAttach := false, command := none, combo := none }

def isSilent (a : Action) : Bool :=
  a.text.isEmpty && a.replace.isEmpty && a.combo.isNone && a.command.isNone

end Action

/-- Two actions, one for a next text that the pattern matches, one for any other or none. -/
structure LookAhead where
  pattern : Pattern
  matched : Action
  unmatched : Action
  deriving DecidableEq

namespace LookAhead

def decide (l : LookAhead) (next : Option Text) : Action :=
  match next with
  | some s => if l.pattern.isMatch s then l.matched else l.unmatched
  | none => l.unmatched

@[simp] theorem decide_none (l : LookAhead) : l.decide none = l.unmatched := rfl

end LookAhead

inductive Slot
  | resolved (a : Action)
  | pending (l : LookAhead)
  deriving DecidableEq

namespace Slot

def action (s : Slot) (next : Option Text) : Action :=
  match s with
  | resolved a => a
  | pending l => l.decide next

@[simp] theorem action_resolved (a : Action) (next : Option Text) : (resolved a).action next = a :=
  rfl

def isPending : Slot → Bool
  | resolved _ => false
  | pending _ => true

end Slot
end Stenotype
