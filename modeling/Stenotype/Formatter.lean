import Stenotype.History

/-!
# The formatter

The formatter keeps the newest translations, which can still be undone, on top of a base that holds
the output of older ones. Each request changes the history, renders it again and gives the edit
from the screen before to the screen after. A lookahead at the end of the base stays open until
what follows it has left the history too.

A history that does not end with what a request takes back is built anew from the request: the
translation before it as context, what it takes back as output.
-/

set_option autoImplicit false

namespace Stenotype

structure View where
  screen : Screen
  last : Action
  deriving DecidableEq, Repr

namespace View

def apply (v : View) (a : Action) : View := ⟨v.screen.apply a, a⟩

def applyAll (v : View) (as : List Action) : View := as.foldl apply v

end View

/-- The output of translations that have left the history. -/
structure Base where
  view : View
  /-- The lookahead that the newest of them ends with. -/
  tail : Option LookAhead

namespace Base

/-- The base grows up to this many characters. -/
def limit : Nat := 1024

/-- What is left of a base that grew too long. -/
def keep : Nat := 512

def ofStart (start : Action) : Base := ⟨⟨Screen.blank, start⟩, none⟩

def isPristine (b : Base) : Bool :=
  b.view.screen.text.isEmpty && b.view.screen.schedule.isEmpty && b.tail.isNone

def settle (b : Base) (next : Option Text) : View :=
  match b.tail with
  | none => b.view
  | some l => b.view.apply (l.decide next)

/-- The base with slots on top: a lookahead at their end stays open. -/
def extend (v : View) : List Slot → Base
  | [] => ⟨v, none⟩
  | [.pending l] => ⟨v, some l⟩
  | s :: ss => extend (v.apply (s.action none)) ss

def absorb (b : Base) (e : Entry) : Base := extend (b.settle (some e.firstLiteral)) e.slots

def surplus (b : Base) : Nat :=
  if limit < b.view.screen.text.length then b.view.screen.text.length - keep else 0

def dropFront (b : Base) (n : Nat) : Base :=
  { b with view := { b.view with screen := b.view.screen.dropFront n } }

end Base

structure Formatter where
  settings : FormatterSettings
  orthography : Orthography
  history : History
  base : Base
  /-- The screen as it was left by the last request. -/
  shown : Screen
  /-- The screen of the translation that the history was built anew after. -/
  context : Screen

namespace Formatter

def startAction (s : FormatterSettings) : Action := Action.start s.startCapitalized s.startAttached

def new (settings : FormatterSettings) (orthography : Orthography) : Formatter where
  settings := settings
  orthography := orthography
  history := History.ofCapacity settings.undoLevels
  base := Base.ofStart (startAction settings)
  shown := Screen.blank
  context := Screen.blank

def style (f : Formatter) : Style := ⟨f.settings.spacePlacement, f.orthography⟩

def view (f : Formatter) (next : Option Text) : View :=
  (f.base.settle (History.following next f.history.entries)).applyAll
    (History.actionsOf next f.history.entries)

def lastAction (f : Formatter) : Action := (f.view none).last

/-- The output on screen, without what was only there as context and still is. -/
def rendered (f : Formatter) : Screen :=
  let shared := Text.commonLength f.context.text f.shown.text
  let sent := ((f.context.schedule.zip f.shown.schedule).takeWhile fun (a, b) =>
    a = b ∧ a.offset ≤ shared).length
  Screen.dropFront { f.shown with schedule := f.shown.schedule.drop sent } shared

def reset (f : Formatter) : Formatter :=
  { f with
    history := f.history.clear, base := Base.ofStart (startAction f.settings)
    shown := Screen.blank, context := Screen.blank }

def resolveNext (f : Formatter) (t : Translation) : List Slot :=
  let v := f.view (some t.firstLiteral)
  f.style.resolve v.last v.screen.text t

def freeze (f : Formatter) (e : Entry) : Formatter :=
  let base := f.base.absorb e
  let n := base.surplus
  if n = 0 then { f with base := base }
  else
    { f with
      base := base.dropFront n, shown := f.shown.dropFront n, context := f.context.dropFront n }

def push (f : Formatter) (t : Translation) (slots : List Slot) : Formatter :=
  let (left, history) := f.history.push ⟨t.plain, slots⟩
  let f := { f with history := history }
  match left with
  | some e => f.freeze e
  | none => f

def append (f : Formatter) (t : Translation) : Formatter := f.push t (f.resolveNext t)

/-- Adds a translation that is on screen, with the slots it remembers. -/
def seed (f : Formatter) (t : Translation) : Formatter :=
  f.push t (t.formatting.getD (f.resolveNext t))

/-- Builds the history anew from what is said to be on screen. -/
def reseed (f : Formatter) (undo : List Translation) (prev : Option Translation) : Formatter :=
  let f := { f with history := f.history.clear, base := Base.ofStart (startAction f.settings) }
  let f := prev.toList.foldl seed f
  let f := { f with context := (f.view none).screen }
  let f := undo.foldl seed f
  { f with shown := (f.view none).screen }

def isFresh (f : Formatter) : Bool := f.history.entries.isEmpty && f.base.isPristine

/-- The history does not hold what a request takes back, or holds nothing while the request knows
more. -/
def needsReseed (f : Formatter) (undo : List Translation) (prev : Option Translation) : Bool :=
  !f.history.endsWith undo || (f.isFresh && prev.isSome)

/-- The formatter whose history ends with what a request takes back. -/
def prepare (f : Formatter) (undo : List Translation) (prev : Option Translation) : Formatter :=
  if f.needsReseed undo prev then f.reseed undo prev else f

def takeBack (f : Formatter) (n : Nat) : Formatter := { f with history := f.history.popMany n }

/-- Takes back `undo` and appends `new`: the formatter after it, and the edit of the screen. -/
def format (f : Formatter) (undo new : List Translation) (prev : Option Translation) :
    Formatter × List Instruction :=
  let f := new.foldl append ((f.prepare undo prev).takeBack undo.length)
  let after := (f.view none).screen
  ({ f with shown := after }, Screen.diff f.shown after)

end Formatter
end Stenotype
