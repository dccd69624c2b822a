import Stenotype.Action
import Stenotype.Instruction

/-!
# Screens

A screen is the text that actions produce, with the key combinations and commands that they send,
each at the place in the text where it is due. From one screen to another leads an edit: take back
what is not shared, then type the rest with its effects in between.
-/

set_option autoImplicit false

namespace Stenotype

inductive Effect
  | keyCombo (combo : Text)
  | engineCommand (name : Text)
  deriving DecidableEq, Repr

structure Scheduled where
  offset : Nat
  effect : Effect
  deriving DecidableEq, Repr

structure Screen where
  text : Text := []
  schedule : List Scheduled := []
  deriving DecidableEq, Repr

def Effect.instruction : Effect → Instruction
  | keyCombo combo => .keyCombo combo
  | engineCommand name => .engineCommand name

/-- The effects of an action, the combination first. -/
def Action.effects (a : Action) : List Effect :=
  (a.combo.map Effect.keyCombo).toList ++ (a.command.map Effect.engineCommand).toList

def Action.edit (a : Action) (output : Text) : Text :=
  Text.dropLast a.replace.length output ++ a.text

namespace Screen

def blank : Screen := {}

def apply (s : Screen) (a : Action) : Screen :=
  let text := a.edit s.text
  ⟨text, s.schedule ++ a.effects.map fun e => ⟨text.length, e⟩⟩

@[simp] theorem apply_text (s : Screen) (a : Action) : (s.apply a).text = a.edit s.text := rfl

/-- The screen without its first `n` characters and the effects due before their end. -/
def dropFront (s : Screen) (n : Nat) : Screen :=
  ⟨s.text.drop n,
    (s.schedule.filter fun e => n ≤ e.offset).map fun e => { e with offset := e.offset - n }⟩

@[simp] theorem dropFront_zero (s : Screen) : s.dropFront 0 = s := by
  have all : s.schedule.filter (fun e => decide (0 ≤ e.offset)) = s.schedule :=
    List.filter_eq_self.2 fun e _ => decide_eq_true (Nat.zero_le e.offset)
  simp only [dropFront, List.drop_zero, all, Nat.sub_zero, List.map_id']

/-- How much of the text stays: what is shared, up to the first effect that differs. -/
def keptLength (old new : Screen) : Nat :=
  let shared := Text.commonLength old.schedule new.schedule
  let changed := old.schedule.drop shared ++ new.schedule.drop shared
  changed.foldl (fun kept e => min kept e.offset) (Text.commonLength old.text new.text)

def typed (s : Text) : List Instruction := if s.isEmpty then [] else [.string s]

def typeFrom (text : Text) : Nat → List Scheduled → List Instruction
  | done, [] => typed (text.drop done)
  | done, e :: es =>
    let due := max done (min e.offset text.length)
    typed ((text.take due).drop done) ++ e.effect.instruction :: typeFrom text due es

/-- The effects of `new` after those that it shares with `old`. -/
def unsent (old new : Screen) : List Scheduled :=
  new.schedule.drop (Text.commonLength old.schedule new.schedule)

/-- The instructions that lead from `old` to `new`. An effect that is due in the text that stays is
passed over. -/
def diff (old new : Screen) : List Instruction :=
  let kept := keptLength old new
  let erased := old.text.length - kept
  (if erased = 0 then [] else [.backspaces erased]) ++
    typeFrom new.text kept ((unsent old new).filter fun e => kept ≤ e.offset)

end Screen
end Stenotype
