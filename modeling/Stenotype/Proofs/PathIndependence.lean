import Stenotype.Proofs.Run

/-!
# Path independence

What a formatter holds depends on the translations that are left, not on how they came to be left:
every lookahead is decided by what follows it now, and what has moved into the base shows as if it
had stayed in the history. A run of requests that take back what the history ends with is compared
with one request for the translations that are left.
-/

set_option autoImplicit false

namespace Stenotype

namespace ServiceCommand

def left : List Translation → ServiceCommand → List Translation
  | ts, format r => ts.take (ts.length - r.undo.length) ++ r.new
  | _, reset => []

def leftByAll (cs : List ServiceCommand) : List Translation := cs.foldl left []

def typing (ts : List Translation) : ServiceCommand := format { new := ts }

theorem foldl_left_typing (ts : List Translation) (batches : List (List Translation)) :
    (batches.map typing).foldl left ts = ts ++ batches.flatten := by
  induction batches generalizing ts with
  | nil => simp
  | cons us rest ih =>
    have first : left ts (typing us) = ts ++ us := by simp [left, typing]
    rw [List.map_cons, List.foldl_cons, first, ih, List.append_assoc, List.flatten_cons]

end ServiceCommand

namespace Formatter
open ServiceCommand

/-- Each request takes back what the history ends with at that moment, names no translation before
that, and leaves the base within its limit all the way. -/
def followsHistory : Formatter → List ServiceCommand → Bool
  | _, [] => true
  | f, .reset :: cs => f.reset.followsHistory cs
  | f, .format r :: cs =>
    r.prev.isNone && f.history.endsWith r.undo &&
      (f.takeBack r.undo.length).appendsWithin r.new && (f.after (.format r)).followsHistory cs

/-- `f` holds `ts` and nothing else: the entries that they have in a row from `start` on, the first
of them in the base and the others in the history. -/
structure Holds (start : Base) (style : Style) (f : Formatter) (ts : List Translation) : Prop where
  start_eq : Base.ofStart (startAction f.settings) = start
  style_eq : f.style = style
  context : f.context = Screen.blank
  split : ∃ gone, start.entriesFor style ts = gone ++ f.history.entries ∧
    f.base = gone.foldl Base.absorb start

theorem holds_new (s : FormatterSettings) (o : Orthography) :
    Holds (Base.ofStart (startAction s)) ⟨s.spacePlacement, o⟩ (new s o) [] :=
  ⟨rfl, rfl, rfl, [], rfl, rfl⟩

theorem length_le_of_endsWith {h : History} {ts : List Translation} (e : h.endsWith ts = true) :
    ts.length ≤ h.entries.length := by
  simp only [History.endsWith, Bool.and_eq_true, decide_eq_true_eq] at e
  exact e.1

namespace Holds
variable {start : Base} {style : Style} {f : Formatter} {ts : List Translation}

theorem whole (h : Holds start style f ts) :
    f.whole = (start.entriesFor style ts).foldl Base.absorb start := by
  obtain ⟨gone, entries, base⟩ := h.split
  rw [Formatter.whole, base, ← List.foldl_append, entries]

theorem whole_eq_foldl_add (h : Holds start style f ts) :
    f.whole = ts.foldl (Base.add style) start := by
  rw [h.whole, Base.foldl_absorb_entriesFor]

theorem view (h : Holds start style f ts) (next : Option Text) :
    f.view next = (ts.foldl (Base.add style) start).settle next := by
  rw [Formatter.view_eq, h.whole_eq_foldl_add]

theorem reset (h : Holds start style f ts) : Holds start style f.reset [] :=
  ⟨h.start_eq, h.style_eq, rfl, [], rfl, h.start_eq⟩

theorem takeBack (h : Holds start style f ts) {n : Nat} (le : n ≤ f.history.entries.length) :
    Holds start style (f.takeBack n) (ts.take (ts.length - n)) := by
  obtain ⟨gone, entries, base⟩ := h.split
  have back := History.append_popMany gone f.history le
  rw [← entries, Base.length_entriesFor, Base.take_entriesFor] at back
  exact ⟨h.start_eq, h.style_eq, h.context, gone, back.symm, base⟩

/-- Appending moves entries from the history into the base, where they count as before. -/
theorem append (h : Holds start style f ts) {us : List Translation}
    (room : f.appendsWithin us = true) : Holds start style (us.foldl append f) (ts ++ us) := by
  obtain ⟨gone, entries, base⟩ := h.split
  obtain ⟨moved, stacked⟩ := foldl_append_stacks room
  refine ⟨?_, ?_, stacked.context.trans h.context, gone ++ moved, ?_, ?_⟩
  · rw [stacked.settings, h.start_eq]
  · rw [stacked.style, h.style_eq]
  · rw [Base.entriesFor_append, ← h.whole, entries, List.append_assoc, List.append_assoc,
      ← stacked.entries, h.style_eq]
  · rw [stacked.base, base, List.foldl_append]

theorem format (h : Holds start style f ts) {undo new : List Translation}
    (e : f.history.endsWith undo = true)
    (room : (f.takeBack undo.length).appendsWithin new = true) :
    Holds start style (f.format undo new none).1 (ts.take (ts.length - undo.length) ++ new) := by
  have typed := (h.takeBack (length_le_of_endsWith e)).append room
  rw [← prepare_eq e] at typed
  exact ⟨typed.start_eq, typed.style_eq, typed.context, typed.split⟩

theorem run (h : Holds start style f ts) {cs : List ServiceCommand}
    (follows : f.followsHistory cs = true) : Holds start style (f.run cs) (cs.foldl left ts) := by
  induction cs generalizing f ts with
  | nil => exact h
  | cons c cs ih =>
    cases c with
    | reset => exact ih h.reset follows
    | format r =>
      obtain ⟨undo, new, prev⟩ := r
      simp only [followsHistory, Bool.and_eq_true, Option.isNone_iff_eq_none] at follows
      obtain ⟨⟨⟨rfl, e⟩, room⟩, later⟩ := follows
      exact ih (h.format e room) later

theorem view_eq {g : Formatter} (hf : Holds start style f ts) (hg : Holds start style g ts) :
    f.view = g.view := by
  funext next
  rw [Formatter.view_eq, Formatter.view_eq, hf.whole, hg.whole]

theorem rendered_eq {g : Formatter} (hf : Holds start style f ts) (hg : Holds start style g ts)
    (sf : f.IsSettled) (sg : g.IsSettled) : f.rendered = g.rendered := by
  rw [rendered_eq_shown hf.context, rendered_eq_shown hg.context, sf, sg, view_eq hf hg]

theorem entries_suffix (h : Holds start style f ts) :
    f.history.entries <:+ start.entriesFor style ts := by
  obtain ⟨gone, entries, _⟩ := h.split
  exact ⟨gone, entries.symm⟩

theorem translations_suffix (h : Holds start style f ts) :
    f.history.entries.map Entry.translation <:+ ts.map Translation.plain := by
  have entries := h.entries_suffix.map Entry.translation
  rwa [Base.map_translation_entriesFor] at entries

end Holds

/-- After any run that follows the history a formatter shows the same, and goes on from the same
action, as a new one with any room for undoing that types in one request what is left; the
histories have the same entries with the same slots, as far back as both reach. -/
theorem run_eq_one_request (s : FormatterSettings) (o : Orthography) (cs : List ServiceCommand)
    (undoLevels : Nat) (follows : (new s o).followsHistory cs = true)
    (room : (new { s with undoLevels := undoLevels } o).appendsWithin (leftByAll cs) = true) :
    let f := (new s o).run cs
    let g := ((new { s with undoLevels := undoLevels } o).format [] (leftByAll cs) none).1
    f.rendered = g.rendered ∧ f.lastAction = g.lastAction ∧
      (f.history.entries <:+ g.history.entries ∨ g.history.entries <:+ f.history.entries) ∧
      f.history.entries.map Entry.translation <:+ (leftByAll cs).map Translation.plain ∧
      g.history.entries.map Entry.translation <:+ (leftByAll cs).map Translation.plain := by
  intro f g
  have hf := (holds_new s o).run follows
  have hg := (holds_new { s with undoLevels := undoLevels } o).format (endsWith_nil _) room
  have sf : f.IsSettled := isSettled_run s o cs
  have sg : g.IsSettled := isSettled_after _ (.format ⟨[], leftByAll cs, none⟩)
  refine ⟨hf.rendered_eq hg sf sg, ?_, ?_, hf.translations_suffix, hg.translations_suffix⟩
  · exact congrArg View.last (congrFun (hf.view_eq hg) none)
  · exact List.suffix_or_suffix_of_suffix hf.entries_suffix hg.entries_suffix

def articleCommands : List ServiceCommand :=
  let typed (english : String) := Translation.ofOutlines [['S']] (some english.toList)
  [.format { new := [typed "lost"] }, .reset,
    .format { new := [typed "\x7b=[aeiou]/an/a\x7d", typed "apple"] },
    .format { undo := [typed "apple"], new := [typed "pear"] }]

theorem run_articleCommands :
    (new { undoLevels := 1 } .empty).followsHistory articleCommands = true ∧
      (new { undoLevels := 3 } .empty).appendsWithin (leftByAll articleCommands) = true ∧
      ((new { undoLevels := 1 } .empty).run articleCommands).rendered =
        ((new { undoLevels := 3 } .empty).format [] (leftByAll articleCommands) none).1.rendered ∧
      ((new { undoLevels := 1 } .empty).run articleCommands).rendered.text = " a pear".toList := by
  have follows : (new { undoLevels := 1 } .empty).followsHistory articleCommands = true := by
    decide +kernel
  have room : (new { undoLevels := 3 } .empty).appendsWithin (leftByAll articleCommands) = true := by
    decide +kernel
  have same := run_eq_one_request { undoLevels := 1 } .empty articleCommands 3 follows room
  exact ⟨follows, room, same.1, by decide +kernel⟩

end Formatter
end Stenotype
