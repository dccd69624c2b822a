import Stenotype.Proofs.Reseeding

/-!
# Taking back

What was appended and is taken back leaves the screen as it was. The one exception is a formatter
that is built anew for the request: the translation before it counts as context and not as output,
but an effect of it that is due past the end of its own text is then taken for output.
-/

set_option autoImplicit false

namespace Stenotype

namespace Screen

/-- No effect is due past the end of the text. -/
def EffectsWithin (s : Screen) : Prop := ∀ e ∈ s.schedule, e.offset ≤ s.text.length

theorem length_takeWhile_zip_self {α : Type} [DecidableEq α] (p : α → Prop) [DecidablePred p]
    (as : List α) :
    ((as.zip as).takeWhile fun (a, b) => a = b ∧ p a).length = (as.takeWhile fun a => p a).length := by
  induction as with
  | nil => rfl
  | cons a as ih =>
    rw [List.zip_cons_cons, List.takeWhile_cons, List.takeWhile_cons]
    by_cases h : p a
    · rw [if_pos (by simpa using h), if_pos (by simpa using h), List.length_cons, List.length_cons, ih]
    · rw [if_neg (by simpa using h), if_neg (by simpa using h)]
      rfl

theorem drop_length_takeWhile {α : Type} (p : α → Bool) (as : List α) :
    as.drop (as.takeWhile p).length = as.dropWhile p := by
  have parts := List.takeWhile_append_dropWhile (p := p) (l := as)
  have rest := congrArg (List.drop (as.takeWhile p).length) parts
  rw [List.drop_left] at rest
  exact rest.symm

theorem filter_dropWhile_eq_nil_iff (n : Nat) (es : List Scheduled) :
    ((es.dropWhile fun e => e.offset ≤ n).filter fun e => n ≤ e.offset) = [] ↔
      ∀ e ∈ es, e.offset ≤ n := by
  induction es with
  | nil => simp
  | cons e es ih =>
    by_cases h : e.offset ≤ n
    · simp only [List.dropWhile_cons, h, decide_true, ↓reduceIte, ih, List.mem_cons, forall_eq_or_imp,
        true_and]
    · have later : n ≤ e.offset := by omega
      simp [h, later]

end Screen

namespace Formatter

theorem rendered_eq_blank_iff {f : Formatter} (same : f.shown = f.context) :
    f.rendered = Screen.blank ↔ f.context.EffectsWithin := by
  have sent := Screen.length_takeWhile_zip_self
    (fun e : Scheduled => e.offset ≤ f.context.text.length) f.context.schedule
  simp only [rendered, same, Text.commonLength_self, sent, Screen.drop_length_takeWhile,
    Screen.dropFront, List.drop_length, Screen.blank, Screen.mk.injEq, true_and, List.map_eq_nil_iff]
  exact Screen.filter_dropWhile_eq_nil_iff _ _

theorem view_of_isFresh {f : Formatter} (fresh : f.isFresh = true) :
    (f.view none).screen = Screen.blank := by
  simp only [isFresh, Base.isPristine, Bool.and_eq_true, List.isEmpty_iff,
    Option.isNone_iff_eq_none] at fresh
  obtain ⟨none_held, ⟨no_text, no_effects⟩, no_tail⟩ := fresh
  rw [view_eq, whole, none_held]
  change (f.base.settle none).screen = _
  rw [Base.settle, no_tail]
  have parts : f.base.view.screen = ⟨f.base.view.screen.text, f.base.view.screen.schedule⟩ := rfl
  rw [parts, no_text, no_effects]
  rfl

theorem rendered_of_isFresh {f : Formatter} (settled : f.IsSettled) (fresh : f.isFresh = true) :
    f.rendered = Screen.blank := by
  have nothing : f.shown = Screen.blank := settled.trans (view_of_isFresh fresh)
  simp [rendered, nothing, Screen.blank, Screen.dropFront, Text.commonLength]

theorem needsReseed_nil (f : Formatter) (prev : Option Translation) :
    f.needsReseed [] prev = (f.isFresh && prev.isSome) := by
  simp [needsReseed, endsWith_nil]

theorem entries_reseed_nil (f : Formatter) (t : Translation) (room : 0 < f.history.capacity) :
    (f.reseed [] (some t)).history.entries ≠ [] := by
  obtain ⟨_, held⟩ := reseed_of_room f [] (some t) room
  intro nothing
  simp [nothing] at held

theorem isFresh_prepare_nil (f : Formatter) {prev : Option Translation}
    (room : 0 < f.history.capacity) (fresh : (f.prepare [] prev).isFresh = true) : prev = none := by
  cases prev with
  | none => rfl
  | some t =>
    rw [prepare, needsReseed_nil, Option.isSome_some, Bool.and_true] at fresh
    split at fresh
    · exact absurd (isEmpty_of_isFresh fresh) (entries_reseed_nil f t room)
    · next old => exact absurd fresh old

theorem needsReseed_of_stacks {f g : Formatter} {es gone : List Entry} {ts : List Translation}
    {prev : Option Translation} (stacked : (f.prepare [] prev).Stacks g es gone)
    (same : es.map Entry.translation = ts.map Translation.plain)
    (fits : ts.length ≤ f.history.capacity) (room : 0 < f.history.capacity) :
    g.needsReseed ts prev = false := by
  have len : es.length = ts.length := by simpa using congrArg List.length same
  have capacity := capacity_of_setup (setup_prepare f [] prev)
  have fits' : es.length ≤ (f.prepare [] prev).history.capacity := by omega
  have found : g.history.endsWith ts = true := endsWith_of_suffix (stacked.suffix fits') same
  have known : (g.isFresh && prev.isSome) = false := by
    by_cases fresh : g.isFresh = true
    · -- nothing was appended, so the first request found the formatter fresh as well
      obtain ⟨no_entries, base⟩ := stacked.of_isEmpty (by omega) (isEmpty_of_isFresh fresh)
      have before : (f.prepare [] prev).isFresh = true := by
        rw [isFresh, no_entries, ← base]
        rwa [isFresh, isEmpty_of_isFresh fresh] at fresh
      rw [isFresh_prepare_nil f room before]
      exact Bool.and_false _
    · simp [fresh]
  simp [needsReseed, found, known]

/-- A request that only appends, and one that takes all of it back. -/
def appendAndTakeBack (f : Formatter) (ts : List Translation) (prev : Option Translation) :
    Formatter :=
  ((f.format [] ts prev).1.format ts [] prev).1

theorem appendAndTakeBack_eq {f : Formatter} {ts : List Translation} {prev : Option Translation}
    (fits : ts.length ≤ f.history.capacity) (room : 0 < f.history.capacity)
    (within : (f.prepare [] prev).appendsWithin ts = true) :
    (f.appendAndTakeBack ts prev).shown = ((f.prepare [] prev).view none).screen ∧
      (f.appendAndTakeBack ts prev).context = (f.prepare [] prev).context := by
  obtain ⟨gone, stacked⟩ := foldl_append_stacks within
  let typed := ts.foldl append (f.prepare [] prev)
  let g : Formatter := { typed with shown := (typed.view none).screen }
  have same := Base.map_translation_entriesFor (f.prepare [] prev).style (f.prepare [] prev).whole ts
  have known : typed.needsReseed ts prev = false := needsReseed_of_stacks stacked same fits room
  have found : g.prepare ts prev = g := by
    change (if typed.needsReseed ts prev then g.reseed ts prev else g) = g
    rw [known]
    rfl
  have first : (f.format [] ts prev).1 = g := by
    rw [format_nil]
  have second : f.appendAndTakeBack ts prev =
      { g.takeBack ts.length with shown := ((typed.takeBack ts.length).view none).screen } := by
    rw [appendAndTakeBack, first, format, found]
    rfl
  -- the entries that moved into the base for the new ones stay there, where they count as before
  have left : (typed.takeBack ts.length).whole = (f.prepare [] prev).whole := by
    have back := stacked.whole_takeBack (by
      rwa [Base.length_entriesFor, capacity_of_setup (setup_prepare f [] prev)])
    rwa [Base.length_entriesFor] at back
  rw [second]
  exact ⟨by rw [view_eq, view_eq, left], stacked.context⟩

/-- Appending what the history has room for and taking it back restores the text, and restores the
schedule exactly unless the formatter is built anew after a translation with an effect that is due
past the end of its text. -/
theorem rendered_appendAndTakeBack (s : FormatterSettings) (o : Orthography)
    (cs : List ServiceCommand) (ts : List Translation) (prev : Option Translation)
    (fits : ts.length ≤ ((new s o).run cs).history.capacity)
    (within : (((new s o).run cs).prepare [] prev).appendsWithin ts = true) :
    let f := (new s o).run cs
    (f.appendAndTakeBack ts prev).rendered.text = f.rendered.text ∧
      ((f.appendAndTakeBack ts prev).rendered = f.rendered ↔
        (f.needsReseed [] prev = true → (f.reseed [] prev).context.EffectsWithin)) := by
  intro f
  obtain ⟨shown, context⟩ := appendAndTakeBack_eq fits (capacity_run_pos s o cs) within
  change (f.appendAndTakeBack ts prev).shown = ((f.prepare [] prev).view none).screen at shown
  change (f.appendAndTakeBack ts prev).context = (f.prepare [] prev).context at context
  have settled : f.IsSettled := isSettled_run s o cs
  by_cases anew : f.needsReseed [] prev = true
  · -- all that is left on screen is context
    rw [prepare, if_pos anew] at shown context
    have all : (f.appendAndTakeBack ts prev).shown = (f.appendAndTakeBack ts prev).context :=
      shown.trans context.symm
    have fresh : f.isFresh = true := by
      rw [needsReseed_nil, Bool.and_eq_true] at anew
      exact anew.1
    rw [rendered_of_isFresh settled fresh, rendered_eq_blank_iff all, context]
    exact ⟨by simp [rendered, all, Text.commonLength_self, Screen.dropFront, Screen.blank],
      ⟨fun within _ => within, fun within => within anew⟩⟩
  · rw [prepare, if_neg anew] at shown context
    have same : (f.appendAndTakeBack ts prev).rendered = f.rendered := by
      rw [rendered, rendered, shown, context, ← settled]
    exact ⟨congrArg Screen.text same, ⟨fun _ fresh => absurd fresh anew, fun _ => same⟩⟩

def combinedWord : Translation := Translation.ofOutlines [['S']] (some "\x7b#return\x7dhello".toList)

theorem rendered_appendAndTakeBack_combinedWord :
    let f := (new {} .empty).run [.format { new := [combinedWord] }, .reset]
    [combinedWord].length ≤ f.history.capacity ∧
      (f.prepare [] (some combinedWord)).appendsWithin [combinedWord] = true ∧
      f.needsReseed [] (some combinedWord) = true ∧
      (f.appendAndTakeBack [combinedWord] (some combinedWord)).rendered = f.rendered := by
  intro f
  have fits : [combinedWord].length ≤ f.history.capacity := by decide +kernel
  have within : (f.prepare [] (some combinedWord)).appendsWithin [combinedWord] = true := by
    decide +kernel
  have due : ∀ e ∈ (f.reseed [] (some combinedWord)).context.schedule,
      e.offset ≤ (f.reseed [] (some combinedWord)).context.text.length := by
    decide +kernel
  have restored := (rendered_appendAndTakeBack {} .empty _ _ (some combinedWord) fits within).2
  exact ⟨fits, within, by decide +kernel, restored.2 fun _ => due⟩

def joinedWords : Translation :=
  Translation.ofOutlines [['S']] (some "foo bar\x7b#return\x7d\x7b*!\x7d".toList)

/-- The key combination of a translation that was only context is taken for output. -/
theorem effect_past_end_left_over :
    [combinedWord].length ≤ (new {} .empty).history.capacity ∧
      ((new {} .empty).prepare [] (some joinedWords)).appendsWithin [combinedWord] = true ∧
      ((new {} .empty).appendAndTakeBack [combinedWord] (some joinedWords)).rendered ≠
        (new {} .empty).rendered ∧
      ((new {} .empty).appendAndTakeBack [combinedWord] (some joinedWords)).rendered =
        ⟨[], [⟨1, .keyCombo "return".toList⟩]⟩ := by
  decide +kernel

end Formatter
end Stenotype
