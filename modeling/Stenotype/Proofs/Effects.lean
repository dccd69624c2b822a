import Mathlib.Data.List.Forall2
import Stenotype.Formatter

/-!
# Effects that are written

An effect is written in braces. The command that is read there sends it and nothing else, whatever
came before it and whatever comes next; every other command sends nothing, and so does a lookahead,
however it is decided.
-/

set_option autoImplicit false

namespace Stenotype

def Command.effect? : Command → Option Effect
  | .keyCombo combo => some (.keyCombo combo)
  | .engineCommand name => some (.engineCommand name)
  | _ => none

/-- The effect that is written in braces: `#` and a combination, or `PLOVER:`, in capital or small
letters, and a command of the engine. -/
def Effect.ofText? : Text → Option Effect
  | '#' :: combo => some (.keyCombo combo)
  | s => (Text.afterStartAnyCase? ['P', 'L', 'O', 'V', 'E', 'R', ':'] s).map .engineCommand

theorem bind_orElse {α β : Type} {a b : Option α} {f : α → Option β} {r : Option β}
    (first : ∀ x, a = some x → f x = r) (second : a = none → b.bind f = r) :
    (a <|> b).bind f = r := by
  cases a with
  | none => exact second rfl
  | some x => exact first x rfl

theorem Text.toLower_eq_of_afterStartAnyCase? {m c : Char} {mark s r : Text}
    (h : afterStartAnyCase? (m :: mark) (c :: s) = some r) : m.toLower = c.toLower := by
  unfold afterStartAnyCase? at h
  split at h
  · assumption
  · cases h

namespace Command
variable {s : Text} {command : Command}

theorem effect?_of_fixed? (h : fixed? s = some command) : command.effect? = Effect.ofText? s := by
  unfold fixed? at h
  split at h <;> cases h <;> rfl

theorem effect?_of_currency? (h : currency? s = some command) :
    command.effect? = Effect.ofText? s := by
  unfold currency? at h
  split at h
  · obtain ⟨form, _, rfl⟩ := Option.map_eq_some_iff.1 h
    rfl
  · cases h

theorem effect?_of_mode? (h : mode? s = some command) : command.effect? = Effect.ofText? s := by
  obtain ⟨name, found, rfl⟩ := Option.map_eq_some_iff.1 h
  cases s with
  | nil => rfl
  | cons c r =>
    -- what begins like `mode:` begins like neither of the two
    have first := Text.toLower_eq_of_afterStartAnyCase? found
    have noCombo : c ≠ '#' := by
      rintro rfl
      exact absurd first (by decide)
    have noEngine : Text.afterStartAnyCase? ['P', 'L', 'O', 'V', 'E', 'R', ':'] (c :: r) = none :=
      if_neg (by rw [← first]; decide)
    simp [Effect.ofText?, effect?, noCombo, noEngine]

theorem effect?_of_engine? (h : engine? s = some command) :
    command.effect? = Effect.ofText? s := by
  obtain ⟨name, found, rfl⟩ := Option.map_eq_some_iff.1 h
  cases s with
  | nil => cases found
  | cons c r =>
    have noCombo : c ≠ '#' := by
      rintro rfl
      exact absurd (Text.toLower_eq_of_afterStartAnyCase? found) (by decide)
    simp [Effect.ofText?, effect?, found, noCombo]

theorem effect?_of_combo? (h : combo? s = some command) : command.effect? = Effect.ofText? s := by
  unfold combo? at h
  split at h <;> cases h
  rfl

theorem effect?_of_conditional? (h : conditional? s = some command) : command.effect? = none := by
  unfold conditional? at h
  split at h <;> cases h <;> rfl

theorem effect?_of_glue? (h : glue? s = some command) : command.effect? = none := by
  unfold glue? at h
  split at h <;> cases h
  rfl

theorem effect?_of_carry? (h : carry? s = some command) : command.effect? = none := by
  unfold carry? at h
  split at h <;> cases h <;> rfl

theorem effect?_of_attach? (h : attach? s = some command) : command.effect? = none := by
  unfold attach? at h
  split at h <;> cases h
  rfl

theorem effectOfText?_eq_none (engine : engine? s = none) (combo : combo? s = none) :
    Effect.ofText? s = none := by
  unfold Effect.ofText?
  split
  · cases combo
  · rw [Option.map_eq_none_iff]
    exact Option.map_eq_none_iff.1 engine

/-- Of several readings of a text the first is taken, and none that comes before those of effects
takes a text that one of these reads. -/
theorem effect?_ofText? (s : Text) : (ofText? s).bind effect? = Effect.ofText? s := by
  refine bind_orElse (fun _ => effect?_of_fixed?) fun _ => ?_
  refine bind_orElse (fun _ => effect?_of_currency?) fun _ => ?_
  refine bind_orElse (fun _ => effect?_of_mode?) fun _ => ?_
  refine bind_orElse (fun _ => effect?_of_engine?) fun engine => ?_
  refine bind_orElse (fun _ => effect?_of_combo?) fun combo => ?_
  -- the readings that are left ask for nothing
  rw [effectOfText?_eq_none engine combo]
  refine bind_orElse (fun _ => effect?_of_conditional?) fun _ => ?_
  refine bind_orElse (fun _ => effect?_of_glue?) fun _ => ?_
  refine bind_orElse (fun _ => effect?_of_carry?) fun _ => ?_
  exact Option.bind_eq_none_iff.2 fun _ => effect?_of_attach?

end Command

namespace Atom

def effect? (atom : Text) : Option Effect :=
  (meta? atom).bind fun s => Effect.ofText? (unescape s)

theorem effect?_trim {s atom : Text} (h : atom ∈ split s) :
    effect? (Text.trim atom) = effect? atom := by
  rw [effect?, meta?_trim h, effect?]

theorem filterMap_effect?_trimmed (s : Text) :
    (trimmed s).filterMap effect? = (split s).filterMap effect? := by
  rw [trimmed, List.filterMap_filter, List.filterMap_map]
  apply List.filterMap_congr
  intro atom h
  dsimp only [Function.comp]
  split
  · exact effect?_trim h
  · next blank =>
    -- an atom of blanks is no command
    have nothing : Text.trim atom = [] := List.isEmpty_iff.1 (by simpa using blank)
    rw [← effect?_trim h, nothing]
    rfl

end Atom

/-- The effects that a translation writes, in order. -/
def Translation.effects (t : Translation) : List Effect :=
  ((t.english.map Atom.split).getD []).filterMap Atom.effect?

/-- The slot sends exactly `es`, whatever comes next. -/
def Slot.Sends : Slot → List Effect → Prop
  | .resolved a, es => a.effects = es
  | .pending l, es => es = [] ∧ l.matched.effects = [] ∧ l.unmatched.effects = []

namespace Slot.Sends

theorem action {s : Slot} {es : List Effect} (h : s.Sends es) (next : Option Text) :
    (s.action next).effects = es := by
  cases s with
  | resolved a => exact h
  | pending l =>
    obtain ⟨rfl, matched, unmatched⟩ := h
    cases next with
    | none => exact unmatched
    | some s =>
      change (if l.pattern.isMatch s then l.matched else l.unmatched).effects = []
      split
      · exact matched
      · exact unmatched

theorem settle {s : Slot} {es : List Effect} (h : s.Sends es) (next : Option Text) :
    (s.settle next).Sends es := by
  cases next with
  | none => cases s <;> exact h
  | some atom =>
    rw [Slot.settle_some]
    exact h.action _

end Slot.Sends

namespace Context
variable (c : Context)

theorem effects_newAction : c.newAction.effects = [] := rfl

theorem effects_place (a : Action) (s : Text) : (c.place a s).effects = a.effects := by
  unfold place
  split <;> rfl

theorem effects_renderWord (a : Action) (s : Text) : (c.renderWord a s).effects = a.effects :=
  effects_place ..

theorem effects_mark (x : Affix) (a : Action) : (x.mark a).effects = a.effects := by
  unfold Affix.mark
  split <;> rfl

theorem effects_orthographyBreak (a : Action) : (c.orthographyBreak a).effects = a.effects :=
  effects_place ..

theorem effects_rewriteWord (a : Action) (content : Text) :
    (c.rewriteWord a content).1.effects = a.effects := by
  unfold rewriteWord
  dsimp only
  split <;> split <;> rfl

theorem effects_suffix (a : Action) (x : Affix) : (c.suffix a x).effects = a.effects := by
  unfold suffix
  dsimp only
  rw [effects_place]
  split
  · exact c.effects_rewriteWord a x.content
  · rfl

theorem effects_attach (s : Text) : (c.attach s).effects = [] := by
  unfold attach
  dsimp only
  split
  · rw [effects_orthographyBreak, effects_mark, effects_newAction]
  · split
    · rw [effects_renderWord, effects_mark, effects_newAction]
    · rw [effects_suffix, effects_mark, effects_newAction]

theorem effects_carryCapitalize (s : Text) : (c.carryCapitalize s).effects = [] := by
  unfold carryCapitalize
  dsimp only
  split
  · exact effects_mark _ _
  · rw [effects_place]
    exact effects_mark _ _

theorem effects_retroCase (case : LetterCase) : (c.retroCase case).effects = [] := by
  unfold retroCase
  dsimp only
  split <;> rfl

theorem effects_retroCurrency (form : Text) : (c.retroCurrency form).effects = [] := by
  unfold retroCurrency
  split
  · rfl
  · split <;> rfl

theorem effects_deleteSpace : c.deleteSpace.effects = [] := by
  unfold deleteSpace
  split
  · rfl
  · dsimp only
    split <;> rfl

theorem effects_insertSpace : c.insertSpace.effects = [] := by
  unfold insertSpace
  split <;> rfl

theorem effects_setMode? {a b : Action} {name : Text} (h : a.setMode? name = some b) :
    b.effects = a.effects := by
  unfold Action.setMode? at h
  split at h
  · cases h
    rfl
  · split at h <;> cases h <;> rfl

theorem effects_mode {name : Text} {a : Action} (h : c.mode name = .ok a) : a.effects = [] := by
  unfold mode at h
  split at h
  · next b set =>
    cases h
    exact effects_setMode? set
  · cases h

theorem effects_alternative (s : Text) : (c.alternative s).effects = [] := by
  unfold alternative
  split
  · rfl
  · exact c.effects_renderWord _ _

theorem sends_typeText (s : Text) : (c.typeText s).Sends [] := c.effects_renderWord _ _

theorem sends_ifNextMatches {args : Text} {l : LookAhead} (h : c.ifNextMatches args = .ok l) :
    (Slot.pending l).Sends [] := by
  unfold ifNextMatches at h
  split at h
  · split at h
    · cases h
      exact ⟨rfl, c.effects_alternative _, c.effects_alternative _⟩
    · cases h
  · cases h

theorem sends_apply {command : Command} {slot : Slot} (h : command.apply c = .ok slot) :
    slot.Sends command.effect?.toList := by
  cases command with
  | stop mark | comma mark =>
    cases h
    exact c.effects_place _ _
  | capitalizeNext | lowerNext | upperNext | engineCommand _ | keyCombo _ =>
    cases h
    rfl
  | retroCase case =>
    cases h
    exact c.effects_retroCase case
  | retroCurrency form =>
    cases h
    exact c.effects_retroCurrency form
  | retroDeleteSpace =>
    cases h
    exact c.effects_deleteSpace
  | retroInsertSpace =>
    cases h
    exact c.effects_insertSpace
  | mode name =>
    change (c.mode name).map Slot.resolved = .ok slot at h
    cases set : c.mode name with
    | error e => simp [set, Except.map] at h
    | ok a =>
      rw [set] at h
      cases h
      exact c.effects_mode set
  | ifNextMatches args =>
    change (c.ifNextMatches args).map Slot.pending = .ok slot at h
    cases parsed : c.ifNextMatches args with
    | error e => simp [parsed, Except.map] at h
    | ok l =>
      rw [parsed] at h
      cases h
      exact c.sends_ifNextMatches parsed
  | glue text =>
    cases h
    exact c.effects_renderWord _ _
  | carryCapitalize text =>
    cases h
    exact c.effects_carryCapitalize text
  | attach text =>
    cases h
    exact c.effects_attach text

theorem effect?_of_error {command : Command} {e : CommandError} (h : command.apply c = .error e) :
    command.effect? = none := by
  cases command with
  | keyCombo _ | engineCommand _ => cases h
  | _ => rfl

theorem sends_resolveMeta (s : Text) : (c.resolveMeta s).Sends (Effect.ofText? s).toList := by
  rw [← Command.effect?_ofText?]
  unfold resolveMeta
  split
  · next none => rw [none]; exact c.sends_typeText s
  · next command some =>
    rw [some, Option.bind_some]
    split
    · next slot ok => exact c.sends_apply ok
    · next e error =>
      rw [c.effect?_of_error error]
      exact c.sends_typeText s

theorem sends_resolveAtom (atom : Text) :
    (c.resolveAtom atom).Sends (Atom.effect? atom).toList := by
  unfold resolveAtom Atom.effect?
  split
  · next s command =>
    rw [command]
    exact c.sends_resolveMeta _
  · next text =>
    rw [text]
    exact c.sends_typeText _

theorem sends_resolveOutline (outline : Text) : (c.resolveOutline outline).Sends [] := by
  unfold resolveOutline
  split
  · exact c.effects_renderWord _ _
  · exact c.sends_typeText _

end Context

namespace Style
variable (style : Style) (last : Action) (output : Text)

theorem sends_resolveAtoms (atoms : List Text) :
    List.Forall₂ Slot.Sends (style.resolveAtoms last output atoms)
      (atoms.map fun atom => (Atom.effect? atom).toList) := by
  induction atoms generalizing last output with
  | nil => exact .nil
  | cons atom rest ih => exact .cons ((Context.sends_resolveAtom _ atom).settle _) (ih _ _)

theorem sends_resolve (t : Translation) :
    ∃ sent, List.Forall₂ Slot.Sends (style.resolve last output t) sent ∧
      sent.flatten = t.effects := by
  unfold resolve Translation.effects
  cases t.english with
  | none => exact ⟨[[]], .cons (Context.sends_resolveOutline _ _) .nil, rfl⟩
  | some english =>
    have atoms : ((Atom.trimmed english).map fun atom => (Atom.effect? atom).toList).flatten =
        (Atom.split english).filterMap Atom.effect? := by
      rw [← Atom.filterMap_effect?_trimmed, List.filterMap_eq_flatMap_toList, List.flatMap]
    dsimp only [Option.map_some, Option.getD_some]
    rw [← atoms]
    split
    · next blank =>
      rw [blank]
      exact ⟨[[]], .cons rfl .nil, rfl⟩
    · exact ⟨_, style.sends_resolveAtoms last output _, rfl⟩

end Style

end Stenotype
