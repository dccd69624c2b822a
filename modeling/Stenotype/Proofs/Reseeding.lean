import Mathlib.Data.List.Forall2
import Stenotype.Proofs.PathIndependence

/-!
# Building the history anew

A history that is built from the translation before and what is taken back is the one that a new
formatter has once it has typed them: each of them is resolved after the same actions and the same
output, or remembers that it was. What was recorded of the screen before does not matter, and what
counts as context is never sent.
-/

set_option autoImplicit false

namespace Stenotype

namespace Formatter
open ServiceCommand

/-- All that resolving looks at is the same. -/
structure SameWindow (f g : Formatter) : Prop where
  settings : f.settings = g.settings
  orthography : f.orthography = g.orthography
  history : f.history = g.history
  base : f.base = g.base

/-- All but what counts as context is the same. -/
structure Agrees (f g : Formatter) : Prop extends SameWindow f g where
  shown : f.shown = g.shown

namespace SameWindow
variable {f g h : Formatter}

theorem refl (f : Formatter) : SameWindow f f := ⟨rfl, rfl, rfl, rfl⟩

theorem symm (s : SameWindow f g) : SameWindow g f :=
  ⟨s.settings.symm, s.orthography.symm, s.history.symm, s.base.symm⟩

theorem trans (s : SameWindow f g) (r : SameWindow g h) : SameWindow f h :=
  ⟨s.settings.trans r.settings, s.orthography.trans r.orthography, s.history.trans r.history,
    s.base.trans r.base⟩

theorem setup (s : SameWindow f g) : f.setup = g.setup := by
  rw [Formatter.setup, s.settings, s.orthography, s.history]
  rfl

theorem view (s : SameWindow f g) (next : Option Text) : f.view next = g.view next := by
  rw [Formatter.view, s.base, s.history]
  rfl

theorem whole (s : SameWindow f g) : f.whole = g.whole := by
  rw [Formatter.whole, s.base, s.history]
  rfl

theorem style (s : SameWindow f g) : f.style = g.style := by
  rw [Formatter.style, s.settings, s.orthography]
  rfl

theorem resolveNext (s : SameWindow f g) (t : Translation) : f.resolveNext t = g.resolveNext t := by
  rw [Formatter.resolveNext, s.view, s.style]
  rfl

theorem takeBack (s : SameWindow f g) (n : Nat) : SameWindow (f.takeBack n) (g.takeBack n) :=
  ⟨s.settings, s.orthography, by rw [Formatter.takeBack, s.history]; rfl, s.base⟩

theorem push (s : SameWindow f g) (t : Translation) (slots : List Slot) :
    SameWindow (f.push t slots) (g.push t slots) ∧
      (f.shown = g.shown → (f.push t slots).shown = (g.push t slots).shown) := by
  rcases f.history.push_cases ⟨t.plain, slots⟩ with ⟨_, kept⟩ | ⟨first, rest, _, _, left⟩
  · simp only [Formatter.push, ← s.history, kept]
    exact ⟨⟨s.settings, s.orthography, rfl, s.base⟩, id⟩
  · simp only [Formatter.push, ← s.history, left, freeze_eq_dropFront, ← s.base]
    exact ⟨⟨s.settings, s.orthography, rfl, rfl⟩, fun same => by rw [same]⟩

theorem append (s : SameWindow f g) (t : Translation) : SameWindow (f.append t) (g.append t) := by
  rw [Formatter.append, s.resolveNext t]
  exact (s.push t _).1

theorem foldl_append (s : SameWindow f g) (ts : List Translation) :
    SameWindow (ts.foldl Formatter.append f) (ts.foldl Formatter.append g) := by
  induction ts generalizing f g with
  | nil => exact s
  | cons t ts ih => exact ih (s.append t)

theorem foldl_seed (s : SameWindow f g) (ts : List Translation) :
    SameWindow (ts.foldl Formatter.seed f) (ts.foldl Formatter.seed g) := by
  induction ts generalizing f g with
  | nil => exact s
  | cons t ts ih =>
    refine ih ?_
    rw [Formatter.seed, s.resolveNext t]
    exact (s.push t _).1

theorem agrees (s : SameWindow f g) (sf : f.IsSettled) (sg : g.IsSettled) : Agrees f g :=
  ⟨s, by rw [sf, sg, s.view]⟩

end SameWindow

theorem sameWindow_reset {f g : Formatter} (same : f.setup = g.setup) :
    SameWindow f.reset g.reset := by
  simp only [setup, Prod.mk.injEq] at same
  obtain ⟨settings, orthography, capacity⟩ := same
  exact ⟨settings, orthography, by simp [reset, History.clear, capacity],
    by simp [reset, settings]⟩

theorem reseed_sameWindow (f : Formatter) (undo : List Translation) (prev : Option Translation) :
    SameWindow (f.reseed undo prev) ((prev.toList ++ undo).foldl seed f.reset) := by
  let cleared : Formatter :=
    { f with history := f.history.clear, base := Base.ofStart (startAction f.settings) }
  have same : SameWindow cleared f.reset := ⟨rfl, rfl, rfl, rfl⟩
  have before := same.foldl_seed prev.toList
  let after := prev.toList.foldl seed cleared
  have around : SameWindow { after with context := (after.view none).screen }
      (prev.toList.foldl seed f.reset) :=
    ⟨before.settings, before.orthography, before.history, before.base⟩
  have all := around.foldl_seed undo
  rw [← List.foldl_append] at all
  exact ⟨all.settings, all.orthography, all.history, all.base⟩

theorem isSettled_reseed (f : Formatter) (undo : List Translation) (prev : Option Translation) :
    (f.reseed undo prev).IsSettled := rfl

theorem reseed_agrees {f g : Formatter} (same : f.setup = g.setup) (undo : List Translation)
    (prev : Option Translation) : Agrees (f.reseed undo prev) (g.reseed undo prev) := by
  have window := (sameWindow_reset same).foldl_seed (prev.toList ++ undo)
  have here := (reseed_sameWindow f undo prev).trans window
  exact (here.trans (reseed_sameWindow g undo prev).symm).agrees (isSettled_reseed ..)
    (isSettled_reseed ..)

namespace Agrees
variable {f g : Formatter}

theorem append (a : Agrees f g) (t : Translation) : Agrees (f.append t) (g.append t) := by
  rw [Formatter.append, a.resolveNext t]
  have pushed := a.push t (g.resolveNext t)
  exact ⟨pushed.1, pushed.2 a.shown⟩

theorem foldl_append (a : Agrees f g) (ts : List Translation) :
    Agrees (ts.foldl Formatter.append f) (ts.foldl Formatter.append g) := by
  induction ts generalizing f g with
  | nil => exact a
  | cons t ts ih => exact ih (a.append t)

theorem takeBack (a : Agrees f g) (n : Nat) : Agrees (f.takeBack n) (g.takeBack n) :=
  ⟨a.toSameWindow.takeBack n, a.shown⟩

theorem prepare (a : Agrees f g) (undo : List Translation) (prev : Option Translation) :
    Agrees (f.prepare undo prev) (g.prepare undo prev) := by
  have needs : f.needsReseed undo prev = g.needsReseed undo prev := by
    rw [needsReseed, isFresh, a.history, a.base]
    rfl
  unfold Formatter.prepare
  rw [needs]
  split
  · exact reseed_agrees a.setup undo prev
  · exact a

/-- Formatters that agree type the same and agree again. -/
theorem typed (a : Agrees f g) (n : Nat) (new : List Translation) :
    let f' := new.foldl Formatter.append (f.takeBack n)
    let g' := new.foldl Formatter.append (g.takeBack n)
    Screen.diff f'.shown (f'.view none).screen = Screen.diff g'.shown (g'.view none).screen ∧
      Agrees { f' with shown := (f'.view none).screen } { g' with shown := (g'.view none).screen } := by
  intro f' g'
  have after : Agrees f' g' := (a.takeBack n).foldl_append new
  have view := after.view none
  rw [after.shown, view]
  exact ⟨rfl, ⟨after.settings, after.orthography, after.history, after.base⟩, rfl⟩

theorem after (a : Agrees f g) (c : ServiceCommand) :
    f.edit c = g.edit c ∧ Agrees (f.after c) (g.after c) := by
  cases c with
  | format r => exact (a.prepare r.undo r.prev).typed r.undo.length r.new
  | reset => exact ⟨rfl, sameWindow_reset a.setup, rfl⟩

theorem edits (a : Agrees f g) (cs : List ServiceCommand) : f.edits cs = g.edits cs := by
  induction cs generalizing f g with
  | nil => rfl
  | cons c cs ih =>
    obtain ⟨here, later⟩ := a.after c
    rw [Formatter.edits, Formatter.edits, here, ih later]

end Agrees

theorem push_of_room {f : Formatter} (t : Translation) (slots : List Slot)
    (room : f.history.entries.length < f.history.capacity) :
    f.push t slots =
      { f with history :=
        { f.history with entries := f.history.entries ++ [⟨t.plain, slots⟩] } } := by
  rcases f.history.push_cases ⟨t.plain, slots⟩ with ⟨_, kept⟩ | ⟨_, _, _, full, _⟩
  · simp only [push, kept]
  · exact absurd full (Nat.not_le.2 room)

theorem append_of_room {f : Formatter} (t : Translation)
    (room : f.history.entries.length < f.history.capacity) :
    f.append t =
      { f with history :=
        { f.history with entries := f.history.entries ++ [⟨t.plain, f.resolveNext t⟩] } } :=
  push_of_room t _ room

theorem foldl_seed_of_room {f : Formatter} {ts : List Translation}
    (room : f.history.entries.length + ts.length ≤ f.history.capacity) :
    (ts.foldl seed f).base = f.base ∧ (ts.foldl seed f).history.entries.map Entry.translation =
      f.history.entries.map Entry.translation ++ ts.map Translation.plain := by
  induction ts generalizing f with
  | nil => exact ⟨rfl, (List.append_nil _).symm⟩
  | cons t ts ih =>
    rw [List.length_cons] at room
    have first : f.seed t = _ := push_of_room t (t.formatting.getD (f.resolveNext t)) (by omega)
    rw [List.foldl_cons, first]
    obtain ⟨base, entries⟩ := ih (f := f.seed t) (by rw [first]; simp; omega)
    rw [first] at base entries
    refine ⟨base, entries.trans ?_⟩
    rw [List.map_append, List.append_assoc]
    rfl

theorem room_reset {f : Formatter} {ts : List Translation} (room : ts.length ≤ f.history.capacity) :
    f.reset.history.entries.length + ts.length ≤ f.reset.history.capacity := by
  simpa [reset, History.clear] using room

theorem reseed_of_room (f : Formatter) (undo : List Translation) (prev : Option Translation)
    (room : (prev.toList ++ undo).length ≤ f.history.capacity) :
    (f.reseed undo prev).base = Base.ofStart (startAction f.settings) ∧
      (f.reseed undo prev).history.entries.map Entry.translation =
        (prev.toList ++ undo).map Translation.plain := by
  have window := reseed_sameWindow f undo prev
  obtain ⟨base, entries⟩ := foldl_seed_of_room (room_reset room)
  rw [window.base, window.history]
  exact ⟨base, entries⟩

theorem length_entries_push_le {f : Formatter} (t : Translation) (slots : List Slot)
    (fits : f.history.entries.length ≤ f.history.capacity) :
    (f.push t slots).history.entries.length ≤ f.history.capacity := by
  rcases f.history.push_cases ⟨t.plain, slots⟩ with ⟨room, kept⟩ | ⟨first, rest, all, _, left⟩
  · simp only [push, kept, List.length_append, List.length_singleton]
    exact room
  · have len := congrArg List.length all
    rw [List.length_append, List.length_singleton, List.length_cons] at len
    simp only [push, left, freeze_eq_dropFront]
    omega

def entriesOf : Formatter → List Translation → List Entry
  | _, [] => []
  | f, t :: ts => ⟨t.plain, f.resolveNext t⟩ :: (f.append t).entriesOf ts

theorem map_translation_entriesOf (f : Formatter) (ts : List Translation) :
    (f.entriesOf ts).map Entry.translation = ts.map Translation.plain := by
  induction ts generalizing f with
  | nil => rfl
  | cons t ts ih => rw [entriesOf, List.map_cons, ih, List.map_cons]

theorem length_entriesOf (f : Formatter) (ts : List Translation) :
    (f.entriesOf ts).length = ts.length := by
  simpa using congrArg List.length (map_translation_entriesOf f ts)

theorem entries_push (f : Formatter) (t : Translation) (slots : List Slot) :
    (f.push t slots).history.entries <:+ f.history.entries ++ [⟨t.plain, slots⟩] ∧
      min (f.history.entries.length + 1) f.history.capacity ≤
        (f.push t slots).history.entries.length := by
  rcases f.history.push_cases ⟨t.plain, slots⟩ with ⟨_, kept⟩ | ⟨first, rest, all, full, left⟩
  · simp only [push, kept]
    refine ⟨List.suffix_rfl, ?_⟩
    rw [List.length_append, List.length_singleton]
    exact Nat.min_le_left _ _
  · have len := congrArg List.length all
    rw [List.length_append, List.length_singleton, List.length_cons] at len
    simp only [push, left, freeze_eq_dropFront, all]
    exact ⟨List.suffix_cons _ _, by omega⟩

theorem entries_foldl_append (f : Formatter) (ts : List Translation) :
    (ts.foldl append f).history.entries <:+ f.history.entries ++ f.entriesOf ts ∧
      min (f.history.entries.length + ts.length) f.history.capacity ≤
        (ts.foldl append f).history.entries.length := by
  induction ts generalizing f with
  | nil => exact ⟨by simp [entriesOf], Nat.min_le_left _ _⟩
  | cons t ts ih =>
    obtain ⟨suffix, enough⟩ := entries_push f t (f.resolveNext t)
    obtain ⟨suffix', enough'⟩ := ih (f.append t)
    have capacity : (f.append t).history.capacity = f.history.capacity :=
      capacity_of_setup (setup_push f t _)
    constructor
    · refine suffix'.trans ?_
      obtain ⟨front, split⟩ := suffix
      refine ⟨front, ?_⟩
      rw [entriesOf, List.append_cons, ← split, List.append_assoc]
      rfl
    · change min _ _ ≤ (f.append t).history.entries.length at enough
      simp only [List.foldl_cons, List.length_cons]
      omega

theorem suffix_entries_foldl_append (f : Formatter) {ts : List Translation}
    (fits : ts.length ≤ f.history.capacity) :
    f.entriesOf ts <:+ (ts.foldl append f).history.entries := by
  obtain ⟨suffix, enough⟩ := entries_foldl_append f ts
  refine List.suffix_of_suffix_length_le (List.suffix_append _ _) suffix ?_
  rw [length_entriesOf]
  omega

theorem drop_of_suffix {α : Type} {as bs : List α} (h : as <:+ bs) :
    bs.drop (bs.length - as.length) = as := by
  obtain ⟨front, rfl⟩ := h
  exact List.drop_left' (by rw [List.length_append]; omega)

/-- The same translation as that of the entry, without slots or with those of the entry. -/
def Recalls (t : Translation) (e : Entry) : Prop :=
  t.plain = e.translation ∧ (t.formatting = none ∨ t.formatting = some e.slots)

instance (t : Translation) (e : Entry) : Decidable (Recalls t e) :=
  inferInstanceAs (Decidable (_ ∧ _))

theorem resolveNext_plain (f : Formatter) (t : Translation) :
    f.resolveNext t.plain = f.resolveNext t := rfl

theorem seed_sameWindow {f g : Formatter} (s : SameWindow f g) {t' t : Translation}
    (recalls : Recalls t' ⟨t.plain, g.resolveNext t⟩) : SameWindow (f.seed t') (g.append t) := by
  obtain ⟨same, memo⟩ := recalls
  have resolved : f.resolveNext t' = g.resolveNext t := by
    rw [s.resolveNext, ← resolveNext_plain, same, resolveNext_plain]
  have slots : t'.formatting.getD (f.resolveNext t') = g.resolveNext t := by
    rcases memo with none | some
    · rw [none, Option.getD_none, resolved]
    · rw [some, Option.getD_some]
  rw [seed, slots, push, same]
  exact (s.push t _).1

theorem foldl_seed_sameWindow {f g : Formatter} (s : SameWindow f g) {ts' ts : List Translation}
    (recalls : List.Forall₂ Recalls ts' (g.entriesOf ts)) :
    SameWindow (ts'.foldl seed f) (ts.foldl append g) := by
  induction ts generalizing f g ts' with
  | nil =>
    cases recalls
    exact s
  | cons t ts ih =>
    cases recalls with
    | cons first rest => exact ih (seed_sameWindow s first) rest

theorem run_typing_sameWindow (f : Formatter) (batches : List (List Translation)) :
    SameWindow (f.run (batches.map typing)) (batches.flatten.foldl append f) := by
  induction batches generalizing f with
  | nil => exact .refl f
  | cons ts rest ih =>
    have first : SameWindow (f.after (typing ts)) (ts.foldl append f) := by
      simp only [after, typing, format_nil, prepare_eq (endsWith_nil f.history)]
      exact ⟨rfl, rfl, rfl, rfl⟩
    rw [List.flatten_cons, List.foldl_append]
    exact (ih (f.after (typing ts))).trans (first.foldl_append _)

theorem needsReseed_of_suffix {f : Formatter} {es : List Entry} {ts : List Translation}
    (newest : es <:+ f.history.entries) (same : es.map Entry.translation = ts.map Translation.plain)
    (held : f.history.entries ≠ []) (prev : Option Translation) : f.needsReseed ts prev = false := by
  have stale : f.isFresh = false := by
    by_contra fresh
    exact held (isEmpty_of_isFresh (by simpa using fresh))
  simp [needsReseed, endsWith_of_suffix newest same, stale]

/-- A new formatter that has typed a translation and then others in batches. -/
def replayed (s : FormatterSettings) (o : Orthography) (first : Translation)
    (batches : List (List Translation)) : Formatter :=
  (new s o).run (typing [first] :: batches.map typing)

section Replaying
variable {s : FormatterSettings} {o : Orthography} {first first' : Translation}
  {batches : List (List Translation)} {others' : List Translation}

theorem replayed_sameWindow : SameWindow (replayed s o first batches)
    ((first :: batches.flatten).foldl append (new s o)) :=
  run_typing_sameWindow (new s o) ([first] :: batches)

theorem isSettled_replayed : (replayed s o first batches).IsSettled := isSettled_run s o _

theorem drop_entries_replayed (fits : batches.flatten.length ≤ (new s o).history.capacity) :
    let entries := (replayed s o first batches).history.entries
    entries.drop (entries.length - batches.flatten.length) =
      ((new s o).append first).entriesOf batches.flatten := by
  intro entries
  have room : ((new s o).append first).history.capacity = (new s o).history.capacity :=
    capacity_of_setup (setup_push (new s o) first _)
  have newest := suffix_entries_foldl_append _ (Nat.le_trans fits (Nat.le_of_eq room.symm))
  have dropped := drop_of_suffix newest
  rw [length_entriesOf] at dropped
  have same : entries = (batches.flatten.foldl append ((new s o).append first)).history.entries :=
    congrArg History.entries replayed_sameWindow.history
  rw [same]
  exact dropped

theorem entries_replayed_nil :
    (replayed s o first []).history.entries = (new s o).entriesOf [first] := by
  obtain ⟨suffix, enough⟩ := entries_foldl_append (new s o) [first]
  have room := capacity_new_pos s o
  have same : (replayed s o first []).history.entries =
      ([first].foldl append (new s o)).history.entries :=
    congrArg History.entries replayed_sameWindow.history
  rw [same]
  refine suffix.eq_of_length_le ?_
  have held : (new s o).history.entries.length = 0 := rfl
  rw [List.length_append, length_entriesOf, held]
  rw [held] at enough
  simp only [List.length_singleton] at enough ⊢
  omega

/-- Built anew from what a new formatter has typed, a history is the one of that formatter. -/
theorem reseed_agrees_replayed {f : Formatter} (same : f.setup = (new s o).setup)
    (fits : batches.flatten.length ≤ (new s o).history.capacity)
    (recallsFirst : List.Forall₂ Recalls [first'] (replayed s o first []).history.entries)
    (recallsOthers : List.Forall₂ Recalls others'
      ((replayed s o first batches).history.entries.drop
        ((replayed s o first batches).history.entries.length - batches.flatten.length))) :
    Agrees (f.reseed others' (some first')) (replayed s o first batches) := by
  have fresh : (new s o).reset = new s o := rfl
  have recalls : List.Forall₂ Recalls (first' :: others')
      ((new s o).entriesOf (first :: batches.flatten)) := by
    rw [entries_replayed_nil] at recallsFirst
    rw [drop_entries_replayed fits] at recallsOthers
    cases recallsFirst with
    | cons one _ => exact .cons one recallsOthers
  have built := (sameWindow_reset same).foldl_seed (first' :: others')
  rw [fresh] at built
  have typed := foldl_seed_sameWindow (.refl (new s o)) recalls
  have window := ((reseed_sameWindow f others' (some first')).trans built).trans typed
  exact (window.trans replayed_sameWindow.symm).agrees (isSettled_reseed ..) isSettled_replayed

theorem needsReseed_replayed (fits : batches.flatten.length ≤ (new s o).history.capacity)
    (prev : Option Translation) :
    (replayed s o first batches).needsReseed batches.flatten prev = false := by
  let f := replayed s o first batches
  have dropped := @drop_entries_replayed s o first batches fits
  have newest : ((new s o).append first).entriesOf batches.flatten <:+ f.history.entries := by
    rw [← dropped]
    exact List.drop_suffix _ _
  have held : f.history.entries ≠ [] := by
    obtain ⟨_, enough⟩ := entries_foldl_append (new s o) (first :: batches.flatten)
    have room := capacity_new_pos s o
    have same : f.history = ((first :: batches.flatten).foldl append (new s o)).history :=
      replayed_sameWindow.history
    rw [same]
    refine List.ne_nil_of_length_pos ?_
    rw [List.length_cons] at enough
    omega
  exact needsReseed_of_suffix newest (map_translation_entriesOf _ _) held prev

end Replaying

/-- A formatter that has to build its history anew from a translation before and what is taken back
does what a new formatter does that has typed them: it sends the same, holds the same, and sends the
same ever after, whatever it held before, and whether the translations remember their slots or not. -/
theorem reseed_eq_replay (s : FormatterSettings) (o : Orthography) (cs : List ServiceCommand)
    (first first' : Translation) (batches : List (List Translation))
    (undo' new' : List Translation) (prev : Option Translation)
    (fits : batches.flatten.length ≤ (new s o).history.capacity)
    (recallsFirst : List.Forall₂ Recalls [first'] (replayed s o first []).history.entries)
    (recallsUndo : List.Forall₂ Recalls undo'
      ((replayed s o first batches).history.entries.drop
        ((replayed s o first batches).history.entries.length - batches.flatten.length)))
    (anew : ((new s o).run cs).needsReseed undo' (some first') = true) :
    let f := (replayed s o first batches).format batches.flatten new' prev
    let g := ((new s o).run cs).format undo' new' (some first')
    g.2 = f.2 ∧ g.1.history = f.1.history ∧ g.1.lastAction = f.1.lastAction ∧
      ∀ later, g.1.edits later = f.1.edits later := by
  intro f g
  have agree := reseed_agrees_replayed (setup_run (new s o) cs) fits recallsFirst recallsUndo
  have count : undo'.length = batches.flatten.length := by
    rw [recallsUndo.length_eq, drop_entries_replayed fits, length_entriesOf]
  have kept : (replayed s o first batches).prepare batches.flatten prev =
      replayed s o first batches := by
    rw [prepare, needsReseed_replayed fits]
    rfl
  have built : ((new s o).run cs).prepare undo' (some first') =
      ((new s o).run cs).reseed undo' (some first') := by
    rw [prepare, if_pos anew]
  obtain ⟨same, after⟩ := agree.typed batches.flatten.length new'
  have hf : f = (replayed s o first batches).format batches.flatten new' prev := rfl
  have hg : g = ((new s o).run cs).format undo' new' (some first') := rfl
  rw [format, kept] at hf
  rw [format, built, count] at hg
  rw [hf, hg]
  exact ⟨same, after.history, congrArg View.last (after.view none), after.edits⟩

/-- An article that is decided by the first of two words that are taken back, and leaves the history
as soon as both are seeded; the first of them remembers its slots. -/
theorem reseed_eq_replay_article :
    let s : FormatterSettings := { undoLevels := 2 }
    let article := Translation.ofEnglish "\x7b=[aeiou]/an/a\x7d"
    let apple := Translation.ofEnglish "apple\x7b#return\x7d"
    let plural := Translation.ofEnglish "\x7b^s\x7d"
    let slots := ((new s .empty).append article).resolveNext apple
    let undo' := [{ apple with formatting := some slots }, plural]
    let f := (replayed s .empty article [[apple], [plural]]).format [apple, plural]
      [.ofEnglish "pear"] (some article)
    let g := ((new s .empty).run [typing [.ofEnglish "lost"]]).format undo' [.ofEnglish "pear"]
      (some article)
    g.2 = f.2 ∧ g.1.lastAction = f.1.lastAction ∧
      g.2 = [.backspaces 8, .string " pear".toList] := by
  intro s article apple plural slots undo' f g
  have fits : [[apple], [plural]].flatten.length ≤ (new s .empty).history.capacity := by
    decide +kernel
  have recallsFirst : List.Forall₂ Recalls [article]
      (replayed s .empty article []).history.entries := by
    decide +kernel
  have recallsUndo : List.Forall₂ Recalls undo'
      ((replayed s .empty article [[apple], [plural]]).history.entries.drop
        ((replayed s .empty article [[apple], [plural]]).history.entries.length -
          [[apple], [plural]].flatten.length)) := by
    decide +kernel
  have anew : ((new s .empty).run [typing [.ofEnglish "lost"]]).needsReseed undo'
      (some article) = true := by
    decide +kernel
  have same := reseed_eq_replay s .empty [typing [.ofEnglish "lost"]] article article
    [[apple], [plural]] undo' [.ofEnglish "pear"] (some article) fits recallsFirst recallsUndo anew
  exact ⟨same.1, same.2.2.1, by decide +kernel⟩

end Formatter
end Stenotype
