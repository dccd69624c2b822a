import Stenotype.Resolution
import Stenotype.Proofs.AtomGrammar

/-!
# Plain words

A word without blanks, braces and backslashes is one atom and names no command. After an action that
asks for nothing it is typed as it stands, with a space on the side where separators go, and the
action that types it asks for nothing either.
-/

set_option autoImplicit false

namespace Stenotype

def isPlain (c : Char) : Bool := !Text.isBlank c && !Atom.isBrace c && c != '\\'

theorem isPlain_iff {c : Char} :
    isPlain c = true ↔ Text.isBlank c = false ∧ Atom.isBrace c = false ∧ c ≠ '\\' := by
  simp only [isPlain, Bool.and_eq_true, Bool.not_eq_true', bne_iff_ne, ne_eq, and_assoc]

def Translation.IsPlainWord (t : Translation) : Prop :=
  ∃ w, t.english = some w ∧ w ≠ [] ∧ ∀ c ∈ w, isPlain c = true

theorem Translation.isPlainWord_iff (t : Translation) :
    t.IsPlainWord ↔ (t.english.any fun w => !w.isEmpty && w.all isPlain) = true := by
  cases english : t.english with
  | none => simp [IsPlainWord, english]
  | some w => simp [IsPlainWord, english]

instance (t : Translation) : Decidable t.IsPlainWord := decidable_of_iff' _ t.isPlainWord_iff

namespace Text

theorem words_of_no_blank {w : Text} (ink : ∀ c ∈ w, isBlank c = false) (ne : w ≠ []) :
    words w = [w] := by
  induction w with
  | nil => exact absurd rfl ne
  | cons c r ih =>
    have first := ink c (List.mem_cons_self ..)
    have others : ∀ d ∈ r, isBlank d = false := fun d hd => ink d (List.mem_cons_of_mem _ hd)
    cases r with
    | nil => simp [words, first]
    | cons d r =>
      have second := others d (List.mem_cons_self ..)
      rw [words, ih others (List.cons_ne_nil _ _)]
      simp [first, second]

theorem rightmostWord_of_no_blank {w : Text} (ink : ∀ c ∈ w, isBlank c = false) :
    rightmostWord w = w := by
  by_cases ne : w = []
  · rw [ne]
    rfl
  · rw [rightmostWord, words_of_no_blank ink ne]
    rfl

theorem dropWhile_isBlank {s : Text} (ink : ∀ c ∈ s, isBlank c = false) :
    s.dropWhile isBlank = s := by
  cases s with
  | nil => rfl
  | cons c r =>
    rw [List.dropWhile_cons, ink c (List.mem_cons_self ..)]
    rfl

theorem trim_of_no_blank {s : Text} (ink : ∀ c ∈ s, isBlank c = false) : trim s = s := by
  have backwards : ∀ c ∈ s.reverse, isBlank c = false := fun c hc => ink c (List.mem_reverse.1 hc)
  rw [trim, trimStart, dropWhile_isBlank ink, trimEnd, dropWhile_isBlank backwards,
    List.reverse_reverse]

theorem substitute_self (c : Char) (s : Text) : substitute c [c] s = s := by
  induction s with
  | nil => rfl
  | cons d r ih =>
    by_cases h : d = c
    · subst h
      simpa [substitute] using ih
    · simpa [substitute, h] using ih

end Text

namespace Atom

theorem isBare_of_plain {w : Text} (plain : ∀ c ∈ w, isPlain c = true) : IsBare w := fun c hc =>
  (isPlain_iff.1 (plain c hc)).2

theorem isBlank_of_plain {w : Text} (plain : ∀ c ∈ w, isPlain c = true) :
    ∀ c ∈ w, Text.isBlank c = false := by
  intro c hc
  exact (isPlain_iff.1 (plain c hc)).1

theorem trimmed_of_plain {w : Text} (ne : w ≠ []) (plain : ∀ c ∈ w, isPlain c = true) :
    trimmed w = [w] := by
  rw [trimmed, split_of_isText ((isBare_of_plain plain).isText ne), List.map_singleton,
    Text.trim_of_no_blank (isBlank_of_plain plain)]
  simp [ne]

theorem meta?_of_plain {w : Text} (ne : w ≠ []) (plain : ∀ c ∈ w, isPlain c = true) :
    meta? w = none :=
  meta?_eq_none (head?_of_isText ((isBare_of_plain plain).isText ne))

end Atom

/-- The action asks nothing of the word after it. -/
structure Action.IsNeutral (a : Action) : Prop where
  nextAttach : a.nextAttach = false
  capitalize : a.capitalize = false
  lower : a.lower = false
  upper : a.upper = false
  upperCarry : a.upperCarry = false
  case : a.case = none
  spaceChar : a.spaceChar = [' ']

def SpacePlacement.spaced (p : SpacePlacement) (w : Text) : Text :=
  match p with
  | .before => ' ' :: w
  | .after => w ++ [' ']

def Action.ofWord (p : SpacePlacement) (w : Text) : Action := { text := p.spaced w, word := w }

theorem Action.isNeutral_start : (Action.start false false).IsNeutral :=
  ⟨rfl, rfl, rfl, rfl, rfl, rfl, rfl⟩

theorem Action.isNeutral_ofWord (p : SpacePlacement) (w : Text) : (ofWord p w).IsNeutral :=
  ⟨rfl, rfl, rfl, rfl, rfl, rfl, rfl⟩

namespace Context

theorem applyOneShot_of_neutral {c : Context} (quiet : c.last.IsNeutral) (s : Text)
    (attached : Bool) : c.applyOneShot s attached = s := by
  simp [applyOneShot, wantsUpper, quiet.lower, quiet.capitalize, quiet.upper, quiet.upperCarry]

theorem renderWord_of_neutral {c : Context} (quiet : c.last.IsNeutral) (s : Text) :
    c.renderWord c.newAction s =
      { Action.ofWord c.placement s with word := Text.rightmostWord s } := by
  have fresh : c.newAction = {} := by
    rw [newAction, Action.following, quiet.case, quiet.spaceChar]
  have apart : c.isAttached {} = false := by
    simp [isAttached, quiet.nextAttach]
  have modes : applyModes {} false s = s := Text.substitute_self ' ' s
  have loud : c.wantsUpper false = false := by
    simp [wantsUpper, quiet.upper]
  have alone : c.isAttached { word := Text.rightmostWord s } = false := by
    simp [isAttached, quiet.nextAttach]
  simp only [renderWord, fresh, apart, applyOneShot_of_neutral quiet, modes, loud]
  cases side : c.placement with
  | before => simp [place, side, alone, Action.ofWord, SpacePlacement.spaced]
  | after => simp [place, side, alone, Action.ofWord, SpacePlacement.spaced]

end Context

/-- A plain word has one slot, which types it after any action. -/
theorem Style.resolve_plain (style : Style) (last : Action) (output : Text) {t : Translation}
    {w : Text} (english : t.english = some w) (ne : w ≠ []) (plain : ∀ c ∈ w, isPlain c = true) :
    style.resolve last output t =
      [.resolved (Context.renderWord ⟨style, last, output⟩ last.following w)] := by
  simp only [resolve, english, Atom.trimmed_of_plain ne plain, resolveAtoms_singleton,
    Context.resolveAtom, Atom.meta?_of_plain ne plain,
    Atom.unescape_of_isBare (Atom.isBare_of_plain plain), Context.typeText]
  rfl

theorem Style.resolve_plainWord (style : Style) {last : Action} (quiet : last.IsNeutral)
    (output : Text) {t : Translation} {w : Text} (english : t.english = some w) (ne : w ≠ [])
    (plain : ∀ c ∈ w, isPlain c = true) :
    style.resolve last output t = [.resolved (Action.ofWord style.placement w)] := by
  have typed := Context.renderWord_of_neutral (c := ⟨style, last, output⟩) quiet w
  rw [Text.rightmostWord_of_no_blank (Atom.isBlank_of_plain plain)] at typed
  rw [style.resolve_plain last output english ne plain]
  exact congrArg (fun a => [Slot.resolved a]) typed

end Stenotype
