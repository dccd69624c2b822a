import Stenotype.Action
import Stenotype.Orthography.Basic

/-!
# Contexts

A context is what an atom may look at when it is turned into an action: the action before it, the
output so far, where separators go and the suffix rules. Placing text adds a separator to it or
takes back the one that is pending.
-/

set_option autoImplicit false

namespace Stenotype

structure Style where
  placement : SpacePlacement
  orthography : Orthography

structure Context extends Style where
  last : Action
  output : Text

namespace Context

def newAction (c : Context) : Action := c.last.following

def copyLast (c : Context) : Action := c.last.silentCopy

def lastWords (c : Context) (n : Nat) : List Text :=
  let ws := Text.words c.output
  ws.drop (ws.length - n)

def lastWordWithTail? (c : Context) : Option (Text × Text) :=
  (Text.words c.output).getLast?.map fun w => (w, Text.trailingBlanks c.output)

/-- The separator that the last action left at the end of the output. -/
def pendingSeparator (c : Context) : Text :=
  if c.placement = .after ∧ c.last.nextAttach = false ∧ Text.endsWith c.last.spaceChar c.last.text ∧
      Text.endsWith c.last.spaceChar c.output then c.last.spaceChar
  else []

theorem pendingSeparator_before {c : Context} (h : c.placement = .before) :
    c.pendingSeparator = [] := by
  simp [pendingSeparator, h]

theorem pendingSeparator_suffix (c : Context) : c.pendingSeparator <:+ c.output := by
  unfold pendingSeparator
  split
  · next h => exact List.isSuffixOf_iff_suffix.1 h.2.2.2
  · exact List.nil_suffix

def isAttached (c : Context) (a : Action) : Bool := a.prevAttach || c.last.nextAttach

/-- `a` with `s` as its text, and separators as they are needed. -/
def place (c : Context) (a : Action) (s : Text) : Action :=
  match c.placement with
  | .before => { a with text := if c.isAttached a then s else a.spaceChar ++ s }
  | .after =>
    { a with
      replace := if c.isAttached a then a.replace ++ c.pendingSeparator else a.replace
      text := if a.nextAttach then s else s ++ a.spaceChar }

def wantsUpper (c : Context) (attached : Bool) : Bool :=
  c.last.upper || (c.last.upperCarry && attached)

/-- `s` in the case that the last action asks the next word to be in. -/
def applyOneShot (c : Context) (s : Text) (attached : Bool) : Text :=
  let s := if c.last.lower then Text.lowerFirst s else s
  let s := if c.last.capitalize then Text.capitalizeFirst s else s
  if c.wantsUpper attached then Text.upper s else s

/-- `s` in the modes of `a`: the case mode, then the separator for spaces. -/
def applyModes (a : Action) (attached : Bool) (s : Text) : Text :=
  Text.substitute ' ' a.spaceChar (LetterCase.apply a.case attached s)

def renderWord (c : Context) (a : Action) (s : Text) : Action :=
  let attached := c.isAttached a
  let word := Text.rightmostWord (c.applyOneShot s attached)
  c.place
    { a with
      word := if a.glue && attached then c.last.word ++ word else word
      upperCarry := c.wantsUpper attached }
    (c.applyOneShot (applyModes a attached s) attached)

end Context
end Stenotype
