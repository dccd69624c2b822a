import Stenotype.Atom
import Stenotype.Translation
import Stenotype.Screen
import Stenotype.Command.Apply

/-!
# Resolution

A translation is resolved atom by atom into slots, each atom following the output of those before
it. Within a translation a lookahead is decided by the next atom; only the last one stays open.
Whatever is no command that can be carried out is typed as text.
-/

set_option autoImplicit false

namespace Stenotype

namespace Translation

/-- The text that the translation shows to a lookahead before it. -/
def firstLiteral (t : Translation) : Text :=
  match t.english with
  | some english => ((Atom.trimmed english).head?.map Atom.literal).getD []
  | none => t.outline

end Translation

def isNumberOutline (s : Text) : Bool := s.any Char.isDigit && s.all fun c => c.isDigit || c = '-'

namespace Context

def typeText (c : Context) (s : Text) : Slot := .resolved (c.renderWord c.newAction s)

def resolveMeta (c : Context) (s : Text) : Slot :=
  match Command.ofText? s with
  | none => c.typeText s
  | some command =>
    match command.apply c with
    | .ok slot => slot
    | .error _ => c.typeText s

def resolveAtom (c : Context) (atom : Text) : Slot :=
  match Atom.meta? atom with
  | some s => c.resolveMeta (Atom.unescape s)
  | none => c.typeText (Atom.unescape atom)

/-- Strokes without a translation: numbers join numbers, all else is typed. -/
def resolveOutline (c : Context) (outline : Text) : Slot :=
  if isNumberOutline outline then .resolved (c.glue (Text.substitute '-' [] outline))
  else c.typeText outline

end Context

def Slot.settle (s : Slot) (next : Option Text) : Slot :=
  match s, next with
  | .pending l, some atom => .resolved (l.decide (some (Atom.literal atom)))
  | s, _ => s

theorem Slot.settle_some (s : Slot) (atom : Text) :
    s.settle (some atom) = .resolved (s.action (some (Atom.literal atom))) := by
  cases s <;> rfl

namespace Style

def resolveAtoms (style : Style) (last : Action) (output : Text) : List Text → List Slot
  | [] => []
  | atom :: rest =>
    let slot := (Context.resolveAtom ⟨style, last, output⟩ atom).settle rest.head?
    let a := slot.action none
    slot :: style.resolveAtoms a (a.edit output) rest

theorem resolveAtoms_singleton (style : Style) (last : Action) (output atom : Text) :
    style.resolveAtoms last output [atom] = [Context.resolveAtom ⟨style, last, output⟩ atom] := by
  cases h : Context.resolveAtom ⟨style, last, output⟩ atom <;> simp [resolveAtoms, h, Slot.settle]

theorem resolveAtoms_cons_cons (style : Style) (last : Action) (output atom next : Text)
    (rest : List Text) :
    let a := (Context.resolveAtom ⟨style, last, output⟩ atom).action (some (Atom.literal next))
    style.resolveAtoms last output (atom :: next :: rest) =
      .resolved a :: style.resolveAtoms a (a.edit output) (next :: rest) := by
  intro a
  rw [resolveAtoms, List.head?_cons, Slot.settle_some]
  rfl

def resolve (style : Style) (last : Action) (output : Text) (t : Translation) : List Slot :=
  match t.english with
  | none => [Context.resolveOutline ⟨style, last, output⟩ t.outline]
  | some english =>
    match Atom.trimmed english with
    | [] => [.resolved last.silentCopy]
    | atoms => style.resolveAtoms last output atoms

end Style
end Stenotype
