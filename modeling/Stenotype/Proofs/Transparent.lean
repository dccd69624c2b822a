import Stenotype.Proofs.Splitting

/-!
# Silent translations

Blanks, key combinations and engine commands type nothing and hand on the state that they find. With
separators before words only one command looks at what the action before it typed, so the
translations around a silent one come out as if it were not there: what waits for the next word goes
on waiting, and the last word stays open for suffixes. A lookahead is another matter, since a silent
translation decides it.
-/

set_option autoImplicit false

namespace Stenotype

namespace Command

def isSilent : Command → Bool
  | keyCombo _ => true
  | engineCommand _ => true
  | _ => false

/-- Neither waits for what comes next nor looks at what was typed last. -/
def isIndependent : Command → Bool
  | ifNextMatches _ => false
  | retroInsertSpace => false
  | _ => true

end Command

def Atom.command? (atom : Text) : Option Command :=
  (meta? atom).bind fun s => Command.ofText? (unescape s)

namespace Translation

/-- Blank, or one key combination or engine command. -/
def isSilent (t : Translation) : Bool :=
  match t.english with
  | none => false
  | some english =>
    match Atom.trimmed english with
    | [] => true
    | [atom] => (Atom.command? atom).any Command.isSilent
    | _ => false

def isIndependent (t : Translation) : Bool :=
  match t.english with
  | none => true
  | some english => (Atom.trimmed english).all fun a => (Atom.command? a).all Command.isIndependent

end Translation

/-- The second row is the first with silent translations put in anywhere. -/
inductive Padded : List Translation → List Translation → Prop
  | nil : Padded [] []
  | keep {ts us : List Translation} (t : Translation) : Padded ts us → Padded (t :: ts) (t :: us)
  | insert {ts us : List Translation} {u : Translation} : u.isSilent = true → Padded ts us →
      Padded ts (u :: us)

/-- The same style and output, and last actions that differ in what they typed, took back and sent at
most. -/
structure Context.Alike (c d : Context) : Prop where
  style : d.toStyle = c.toStyle
  last : d.last.silentCopy = c.last.silentCopy
  output : d.output = c.output

theorem Action.eq_of_silentCopy {a b : Action} (h : b.silentCopy = a.silentCopy) :
    ∃ text replace prevAttach command combo,
      b = { a with
        text := text, replace := replace, prevAttach := prevAttach, command := command
        combo := combo } := by
  refine ⟨b.text, b.replace, b.prevAttach, b.command, b.combo, ?_⟩
  cases a
  cases b
  simp only [silentCopy, mk.injEq, true_and] at h ⊢
  exact h

namespace Context

theorem Alike.eq {c d : Context} (h : c.Alike d) :
    ∃ text replace prevAttach command combo,
      d = ⟨c.toStyle, { c.last with
        text := text, replace := replace, prevAttach := prevAttach, command := command
        combo := combo }, c.output⟩ := by
  obtain ⟨style, last, output⟩ := d
  obtain ⟨rfl, same, rfl⟩ := h
  obtain ⟨text, replace, prevAttach, command, combo, rfl⟩ := Action.eq_of_silentCopy same
  exact ⟨text, replace, prevAttach, command, combo, rfl⟩

namespace Alike
variable {c d : Context}

theorem newAction (h : c.Alike d) : d.newAction = c.newAction := by
  obtain ⟨text, replace, prevAttach, command, combo, rfl⟩ := h.eq
  rfl

theorem place (h : c.Alike d) (before : c.placement = .before) (a : Action) (s : Text) :
    d.place a s = c.place a s := by
  obtain ⟨text, replace, prevAttach, command, combo, rfl⟩ := h.eq
  simp only [Context.place, before]
  rfl

theorem renderWord (h : c.Alike d) (before : c.placement = .before) (a : Action) (s : Text) :
    d.renderWord a s = c.renderWord a s := by
  have placed := h.place before
  obtain ⟨text, replace, prevAttach, command, combo, rfl⟩ := h.eq
  rw [Context.renderWord, placed]
  rfl

theorem typeText (h : c.Alike d) (before : c.placement = .before) (s : Text) :
    d.typeText s = c.typeText s := by
  rw [Context.typeText, h.newAction, h.renderWord before, Context.typeText]

theorem glue (h : c.Alike d) (before : c.placement = .before) (s : Text) : d.glue s = c.glue s := by
  have rendered := h.renderWord before
  obtain ⟨text, replace, prevAttach, command, combo, rfl⟩ := h.eq
  exact rendered _ s

theorem wordTail (h : c.Alike d) (before : c.placement = .before) (n : Nat) :
    d.wordTail n = c.wordTail n := by
  have before' : d.placement = .before := by rw [h.style, before]
  rw [Context.wordTail, Context.wordTail, pendingSeparator_before before,
    pendingSeparator_before before', h.output]

theorem attach (h : c.Alike d) (before : c.placement = .before) (s : Text) :
    d.attach s = c.attach s := by
  have tail := h.wordTail before
  have placed := h.place before
  have rendered := h.renderWord before
  obtain ⟨text, replace, prevAttach, command, combo, rfl⟩ := h.eq
  simp only [Context.attach, Context.suffix, Context.rewriteWord, Context.orthographyBreak, tail,
    placed, rendered]
  rfl

theorem carryCapitalize (h : c.Alike d) (before : c.placement = .before) (s : Text) :
    d.carryCapitalize s = c.carryCapitalize s := by
  have placed := h.place before
  obtain ⟨text, replace, prevAttach, command, combo, rfl⟩ := h.eq
  simp only [Context.carryCapitalize, placed]
  rfl

theorem apply (h : c.Alike d) (before : c.placement = .before) {command : Command}
    (independent : command.isIndependent = true) : command.apply d = command.apply c := by
  cases command with
  | stop mark | comma mark =>
    simp only [Command.apply, Context.stop, Context.comma, h.newAction, h.place before]
  | glue text => simp only [Command.apply, h.glue before]
  | attach text => simp only [Command.apply, h.attach before]
  | carryCapitalize text => simp only [Command.apply, h.carryCapitalize before]
  | ifNextMatches args => cases independent
  | retroInsertSpace => cases independent
  | _ =>
    obtain ⟨text, replace, prevAttach, command, combo, rfl⟩ := h.eq
    rfl

theorem resolveAtom (h : c.Alike d) (before : c.placement = .before) {atom : Text}
    (independent : (Atom.command? atom).all Command.isIndependent = true) :
    d.resolveAtom atom = c.resolveAtom atom := by
  cases inside : Atom.meta? atom with
  | none => simp only [Context.resolveAtom, inside, h.typeText before]
  | some s =>
    cases named : Command.ofText? (Atom.unescape s) with
    | none => simp only [Context.resolveAtom, Context.resolveMeta, inside, named, h.typeText before]
    | some command =>
      have independent : command.isIndependent = true := by
        simpa [Atom.command?, inside, named] using independent
      simp only [Context.resolveAtom, Context.resolveMeta, inside, named, h.apply before independent,
        h.typeText before]

theorem resolveOutline (h : c.Alike d) (before : c.placement = .before) (outline : Text) :
    d.resolveOutline outline = c.resolveOutline outline := by
  rw [Context.resolveOutline, h.glue before, h.typeText before, Context.resolveOutline]

end Alike

theorem resolveAtom_of_ok {c : Context} {atom : Text} {command : Command} {slot : Slot}
    (named : Atom.command? atom = some command) (ok : command.apply c = .ok slot) :
    c.resolveAtom atom = slot := by
  obtain ⟨s, inside, named⟩ := Option.bind_eq_some_iff.1 named
  simp only [resolveAtom, resolveMeta, inside, named, ok]

theorem isPending_apply {c : Context} {command : Command} {slot : Slot}
    (independent : command.isIndependent = true) (ok : command.apply c = .ok slot) :
    slot.isPending = false := by
  cases command with
  | ifNextMatches args => cases independent
  | mode name =>
    cases set : c.mode name with
    | ok a =>
      simp only [Command.apply, set, Except.map] at ok
      cases ok
      rfl
    | error e => simp [Command.apply, set, Except.map] at ok
  | _ =>
    cases ok
    rfl

theorem isPending_resolveAtom (c : Context) {atom : Text}
    (independent : (Atom.command? atom).all Command.isIndependent = true) :
    (c.resolveAtom atom).isPending = false := by
  cases inside : Atom.meta? atom with
  | none => simp only [resolveAtom, inside, typeText, Slot.isPending]
  | some s =>
    cases named : Command.ofText? (Atom.unescape s) with
    | none => simp only [resolveAtom, resolveMeta, inside, named, typeText, Slot.isPending]
    | some command =>
      have independent : command.isIndependent = true := by
        simpa [Atom.command?, inside, named] using independent
      simp only [resolveAtom, resolveMeta, inside, named]
      split
      · next slot ok => exact isPending_apply independent ok
      · rfl

end Context

/-- The same text, and the same state to go on from. -/
structure View.Alike (v w : View) : Prop where
  text : w.screen.text = v.screen.text
  last : w.last.silentCopy = v.last.silentCopy

namespace View.Alike
variable {v w : View}

theorem context (h : v.Alike w) (style : Style) :
    Context.Alike ⟨style, v.last, v.screen.text⟩ ⟨style, w.last, w.screen.text⟩ :=
  ⟨rfl, h.last, h.text⟩

theorem trans {u : View} (h : u.Alike v) (h' : v.Alike w) : u.Alike w :=
  ⟨h'.text.trans h.text, h'.last.trans h.last⟩

theorem apply (h : v.Alike w) (a : Action) : (v.apply a).Alike (w.apply a) :=
  ⟨congrArg a.edit h.text, rfl⟩

theorem extend (h : v.Alike w) (slots : List Slot) :
    (Base.extend v slots).view.Alike (Base.extend w slots).view := by
  induction slots generalizing v w with
  | nil => exact h
  | cons s ss ih =>
    cases s with
    | resolved a =>
      rw [Base.extend_resolved_cons, Base.extend_resolved_cons]
      exact ih (h.apply a)
    | pending l =>
      cases ss with
      | nil => exact h
      | cons s' ss => exact ih (h.apply _)

theorem resolve (h : v.Alike w) {style : Style} (before : style.placement = .before)
    {t : Translation} (independent : t.isIndependent = true) :
    style.resolve w.last w.screen.text t = style.resolve v.last v.screen.text t := by
  have c := h.context style
  cases english : t.english with
  | none => simp only [Style.resolve, english, c.resolveOutline before]
  | some english' =>
    cases atoms : Atom.trimmed english' with
    | nil => simp only [Style.resolve, english, atoms, h.last]
    | cons atom rest =>
      have first : (Atom.command? atom).all Command.isIndependent = true := by
        simp only [Translation.isIndependent, english, atoms, List.all_cons, Bool.and_eq_true]
          at independent
        exact independent.1
      -- the first atom makes the same action of both, and the others follow it
      have same := c.resolveAtom before first
      rw [h.text] at same
      simp only [Style.resolve, english, atoms, Style.resolveAtoms, h.text, same]

end View.Alike

namespace Style

theorem isPending_of_mem_resolveAtoms (style : Style) (last : Action) (output : Text)
    {atoms : List Text}
    (independent : ∀ a ∈ atoms, (Atom.command? a).all Command.isIndependent = true) :
    ∀ s ∈ style.resolveAtoms last output atoms, s.isPending = false := by
  induction atoms generalizing last output with
  | nil => simp [resolveAtoms]
  | cons atom rest ih =>
    have others := fun a mem => independent a (List.mem_cons_of_mem atom mem)
    refine List.forall_mem_cons.2 ⟨?_, ih _ _ others⟩
    cases rest with
    | nil =>
      have here := Context.isPending_resolveAtom ⟨style, last, output⟩
        (independent atom (List.mem_cons_self ..))
      cases slot : Context.resolveAtom ⟨style, last, output⟩ atom with
      | resolved a => rfl
      | pending l => simp [slot, Slot.isPending] at here
    | cons next rest =>
      rw [List.head?_cons, Slot.settle_some]
      rfl

theorem isPending_of_mem_resolve (style : Style) (last : Action) (output : Text) {t : Translation}
    (independent : t.isIndependent = true) :
    ∀ s ∈ style.resolve last output t, s.isPending = false := by
  cases english : t.english with
  | none =>
    simp only [resolve, english, List.mem_singleton, forall_eq, Context.resolveOutline]
    split <;> rfl
  | some english' =>
    simp only [Translation.isIndependent, english, List.all_eq_true] at independent
    cases atoms : Atom.trimmed english' with
    | nil => simp [resolve, english, atoms, Slot.isPending]
    | cons atom rest =>
      simp only [resolve, english, atoms]
      exact isPending_of_mem_resolveAtoms style last output (atoms ▸ independent)

theorem resolve_of_isSilent (style : Style) (last : Action) (output : Text) {t : Translation}
    (silent : t.isSilent = true) :
    ∃ a, style.resolve last output t = [.resolved a] ∧ a.text = [] ∧ a.replace = [] ∧
      a.silentCopy = last.silentCopy := by
  unfold Translation.isSilent at silent
  split at silent
  · cases silent
  · next english text =>
    split at silent
    · next blank => exact ⟨last.silentCopy, by simp only [resolve, text, blank], rfl, rfl, rfl⟩
    · next atom atoms =>
      have slots : style.resolve last output t =
          [Context.resolveAtom ⟨style, last, output⟩ atom] := by
        simp only [resolve, text, atoms, resolveAtoms_singleton]
      cases named : Atom.command? atom with
      | none => simp [named] at silent
      | some command =>
        rw [slots]
        cases command with
        | keyCombo combo =>
          rw [Context.resolveAtom_of_ok named rfl]
          exact ⟨_, rfl, rfl, rfl, rfl⟩
        | engineCommand name =>
          rw [Context.resolveAtom_of_ok named rfl]
          exact ⟨_, rfl, rfl, rfl, rfl⟩
        | _ => simp [named, Command.isSilent] at silent
    · cases silent

end Style

namespace Base

theorem tail_extend (v : View) {slots : List Slot} (decided : ∀ s ∈ slots, s.isPending = false) :
    (extend v slots).tail = none := by
  fun_induction extend v slots with
  | case1 v => rfl
  | case2 v l => simp [Slot.isPending] at decided
  | case3 v s ss _ ih => exact ih fun s' mem => decided s' (List.mem_cons_of_mem _ mem)

/-- The same text and state, and nothing left open. -/
structure Alike (b b' : Base) : Prop where
  view : b.view.Alike b'.view
  tail : b.tail = none
  tail' : b'.tail = none

theorem settle_of_decided {b : Base} (decided : b.tail = none) (next : Option Text) :
    b.settle next = b.view := by
  rw [settle, decided]

theorem add_of_decided {b : Base} (decided : b.tail = none) (style : Style) (t : Translation) :
    b.add style t = extend b.view (style.resolve b.view.last b.view.screen.text t) := by
  rw [add, absorb, entryFor, settle_of_decided decided, settle_of_decided decided]

namespace Alike
variable {b b' : Base}

theorem insert (h : b.Alike b') (style : Style) {u : Translation} (silent : u.isSilent = true) :
    b.Alike (b'.add style u) := by
  obtain ⟨a, slots, text, replace, state⟩ :=
    style.resolve_of_isSilent b'.view.last b'.view.screen.text silent
  have unchanged : a.edit b'.view.screen.text = b'.view.screen.text := by
    rw [Action.edit, text, replace, List.length_nil, Text.dropLast_zero, List.append_nil]
  rw [add_of_decided h.tail', slots]
  exact ⟨h.view.trans ⟨unchanged, state⟩, h.tail, rfl⟩

theorem add (h : b.Alike b') {style : Style} (before : style.placement = .before)
    {t : Translation} (independent : t.isIndependent = true) :
    (b.add style t).Alike (b'.add style t) := by
  have decided :=
    style.isPending_of_mem_resolve b.view.last b.view.screen.text independent
  rw [add_of_decided h.tail, add_of_decided h.tail', h.view.resolve before independent]
  exact ⟨h.view.extend _, tail_extend _ decided, tail_extend _ decided⟩

theorem foldl_add (h : b.Alike b') {style : Style} (before : style.placement = .before)
    {ts us : List Translation} (padded : Padded ts us)
    (independent : ∀ t ∈ ts, t.isIndependent = true) :
    (ts.foldl (Base.add style) b).Alike (us.foldl (Base.add style) b') := by
  induction padded generalizing b b' with
  | nil => exact h
  | keep t _ ih =>
    exact ih (h.add before (independent t (List.mem_cons_self ..)))
      fun u mem => independent u (List.mem_cons_of_mem t mem)
  | insert silent _ ih => exact ih (h.insert style silent) independent

end Alike
end Base

namespace Formatter
open ServiceCommand

/-- With separators before words blanks, key combinations and engine commands may be put in anywhere
among translations that hold no lookahead: at every moment the text is the same, and what comes next
finds the same pending case, modes, attachment and last word. -/
theorem silent_translations_pass_through (s : FormatterSettings) (o : Orthography)
    (before : s.spacePlacement = .before) (undoLevels : Nat) (cs ds : List ServiceCommand)
    (padded : Padded (leftByAll cs) (leftByAll ds))
    (independent : ∀ t ∈ leftByAll cs, t.isIndependent = true)
    (follows : (new s o).followsHistory cs = true)
    (follows' : (new { s with undoLevels := undoLevels } o).followsHistory ds = true) :
    let f := (new s o).run cs
    let g := (new { s with undoLevels := undoLevels } o).run ds
    g.rendered.text = f.rendered.text ∧ g.lastAction.silentCopy = f.lastAction.silentCopy := by
  intro f g
  have hf := (holds_new s o).run follows
  have hg := (holds_new { s with undoLevels := undoLevels } o).run follows'
  let start := Base.ofStart (startAction s)
  let style : Style := ⟨s.spacePlacement, o⟩
  have here : start.Alike start := ⟨⟨rfl, rfl⟩, rfl, rfl⟩
  have placement : style.placement = .before := before
  have bases := here.foldl_add placement padded independent
  have viewF := (hf.view none).trans (Base.settle_of_decided bases.tail none)
  have viewG := (hg.view none).trans (Base.settle_of_decided bases.tail' none)
  have views : (f.view none).Alike (g.view none) := by
    rw [viewF, viewG]
    exact bases.view
  rw [rendered_eq_shown hf.context, rendered_eq_shown hg.context, isSettled_run s o cs,
    isSettled_run _ o ds]
  exact ⟨views.text, views.last⟩

/-- A capital waits behind a key combination, and a word behind an engine command for its suffix. -/
theorem silent_translations_pass_through_capital :
    let o := Orthography.ofTable [(r"^(.+)e \^ ing$", "1ing")]
    let capital := Translation.ofEnglish "\x7b-|\x7d"
    let drive := Translation.ofEnglish "drive"
    let ing := Translation.ofEnglish "\x7b^ing\x7d"
    let combo := Translation.ofEnglish "\x7b#Return\x7d"
    let toggle := Translation.ofEnglish "\x7bPLOVER:TOGGLE\x7d"
    let blank := Translation.ofEnglish " "
    let f := (new {} o).run [typing [capital, drive], typing [ing]]
    let g := (new { undoLevels := 1 } o).run
      [typing [blank, capital, combo, drive], typing [toggle, blank, ing]]
    g.rendered.text = f.rendered.text ∧ f.rendered.text = " Driving".toList := by
  intro o capital drive ing combo toggle blank f g
  have padded : Padded [capital, drive, ing] [blank, capital, combo, drive, toggle, blank, ing] :=
    .insert (by decide +kernel) <| .keep _ <| .insert (by decide +kernel) <| .keep _ <|
      .insert (by decide +kernel) <| .insert (by decide +kernel) <| .keep _ .nil
  have same := silent_translations_pass_through {} o rfl 1
    [typing [capital, drive], typing [ing]]
    [typing [blank, capital, combo, drive], typing [toggle, blank, ing]] padded
    (by decide +kernel) (by decide +kernel) (by decide +kernel)
  exact ⟨same.1, by decide +kernel⟩

end Formatter
end Stenotype
