import Stenotype.Proofs.Edit
import Stenotype.Proofs.Effects
import Stenotype.Proofs.PathIndependence

/-!
# Effects are sent once

The key combinations and engine commands of a screen are those that the translations write, in
order. What is typed later only adds to the schedule: a lookahead that changes its mind sends
nothing itself, and text that is erased leaves the effects due behind it as they were. So a request
sends the effects of what it types and no others.
-/

set_option autoImplicit false

namespace Stenotype

theorem Entry.effects_actionsOf {slots : List Slot} {sent : List (List Effect)}
    (h : List.Forall₂ Slot.Sends slots sent) (next : Option Text) :
    (actionsOf next slots).flatMap Action.effects = sent.flatten := by
  induction h with
  | nil => rfl
  | @cons s es ss ess first rest ih =>
    cases rest with
    | nil => simp [actionsOf, first.action]
    | cons second rest =>
      rw [actionsOf, List.flatMap_cons, first.action, ih, ← List.flatten_cons]
      exact List.cons_ne_nil _ _

theorem View.schedule_applyAll (v : View) (as : List Action) :
    ∃ es, (v.applyAll as).screen.schedule = v.screen.schedule ++ es ∧
      es.map Scheduled.effect = as.flatMap Action.effects := by
  induction as generalizing v with
  | nil => exact ⟨[], (List.append_nil _).symm, rfl⟩
  | cons a as ih =>
    obtain ⟨es, later, effects⟩ := ih (v.apply a)
    have here : (v.apply a).screen.schedule = v.screen.schedule ++
        a.effects.map fun e => ⟨(v.screen.apply a).text.length, e⟩ := rfl
    refine ⟨_, later.trans (by rw [here, List.append_assoc]), ?_⟩
    rw [List.map_append, effects, List.map_map, List.flatMap_cons]
    simp [Function.comp_def]

namespace Base

/-- A lookahead that is open at the end sends nothing, however it is decided. -/
def TailIsQuiet (b : Base) : Prop := ∀ l, b.tail = some l → (Slot.pending l).Sends []

/-- `c` sends all that `b` does, then `sent`. -/
structure SendsAfter (b c : Base) (sent : List Effect) : Prop where
  quiet : c.TailIsQuiet
  schedule : ∃ es, c.view.screen.schedule = b.view.screen.schedule ++ es ∧
    es.map Scheduled.effect = sent

theorem tailIsQuiet_ofStart (a : Action) : (ofStart a).TailIsQuiet := by
  intro l h
  cases h

theorem tailIsQuiet_extend {v : View} {slots : List Slot} {sent : List (List Effect)}
    (h : List.Forall₂ Slot.Sends slots sent) : (extend v slots).TailIsQuiet := by
  fun_induction extend v slots generalizing sent with
  | case1 v =>
    intro l h
    cases h
  | case2 v l =>
    cases h with
    | cons only _ =>
      rintro _ ⟨⟩
      exact ⟨rfl, only.2⟩
  | case3 v s ss _ ih =>
    cases h with
    | cons _ rest => exact ih rest

theorem schedule_settle {b : Base} (quiet : b.TailIsQuiet) (next : Option Text) :
    (b.settle next).screen.schedule = b.view.screen.schedule := by
  unfold settle
  split
  · rfl
  · next l tail =>
    have nothing : (l.decide next).effects = [] := (quiet l tail).action next
    simp [View.apply, Screen.apply, nothing]

namespace SendsAfter
variable {b c d : Base} {sent sent' : List Effect}

theorem refl (quiet : b.TailIsQuiet) : SendsAfter b b [] :=
  ⟨quiet, [], (List.append_nil _).symm, rfl⟩

theorem trans (hbc : SendsAfter b c sent) (hcd : SendsAfter c d sent') :
    SendsAfter b d (sent ++ sent') := by
  obtain ⟨es, first, effects⟩ := hbc.schedule
  obtain ⟨es', second, effects'⟩ := hcd.schedule
  refine ⟨hcd.quiet, es ++ es', ?_, ?_⟩
  · rw [second, first, List.append_assoc]
  · rw [List.map_append, effects, effects']

theorem filter_isEffect_diff (h : SendsAfter b c sent) (quiet : b.TailIsQuiet)
    (next next' : Option Text) :
    (Screen.diff (b.settle next).screen (c.settle next').screen).filter Instruction.isEffect =
      sent.map Effect.instruction := by
  obtain ⟨es, schedule, rfl⟩ := h.schedule
  rw [Screen.filter_isEffect_diff, Screen.unsent, schedule_settle quiet, schedule_settle h.quiet,
    schedule, Screen.commonLength_append, List.drop_left, List.map_map]
  rfl

end SendsAfter

/-- A translation that is added sends what it writes; the lookahead before it, which it decides,
sends nothing. -/
theorem sendsAfter_add (style : Style) {b : Base} (quiet : b.TailIsQuiet) (t : Translation) :
    SendsAfter b (b.add style t) t.effects := by
  let v := b.settle (some t.firstLiteral)
  obtain ⟨sent, sends, all⟩ := style.sends_resolve v.last v.screen.text t
  have tail : (b.add style t).TailIsQuiet := tailIsQuiet_extend sends
  obtain ⟨es, schedule, effects⟩ :=
    v.schedule_applyAll (Entry.actionsOf none (style.resolve v.last v.screen.text t))
  rw [← settle_extend] at schedule
  rw [Entry.effects_actionsOf sends, all] at effects
  refine ⟨tail, es, ?_, effects⟩
  rw [← schedule_settle tail none, ← schedule_settle quiet (some t.firstLiteral)]
  exact schedule

theorem sendsAfter_foldl_add (style : Style) {b : Base} (quiet : b.TailIsQuiet)
    (ts : List Translation) :
    SendsAfter b (ts.foldl (add style) b) (ts.flatMap Translation.effects) := by
  induction ts generalizing b with
  | nil => exact .refl quiet
  | cons t ts ih =>
    have first := sendsAfter_add style quiet t
    exact first.trans (ih first.quiet)

end Base

namespace Formatter
open ServiceCommand

namespace Holds
variable {style : Style} {start : Base} {f : Formatter} {ts : List Translation}

theorem filter_isEffect_edit (h : Holds start style f ts) (quiet : start.TailIsQuiet)
    (settled : f.IsSettled) {us : List Translation} (room : f.appendsWithin us = true) :
    (f.edit (typing us)).filter Instruction.isEffect =
      (us.flatMap Translation.effects).map Effect.instruction := by
  have before : f.whole.TailIsQuiet := by
    rw [h.whole_eq_foldl_add]
    exact (Base.sendsAfter_foldl_add style quiet ts).quiet
  have added := Base.sendsAfter_foldl_add style before us
  obtain ⟨gone, stacked⟩ := foldl_append_stacks room
  have after : (us.foldl Formatter.append f).whole = us.foldl (Base.add style) f.whole := by
    rw [stacked.whole, h.style_eq, Base.foldl_absorb_entriesFor]
  have sent := added.filter_isEffect_diff before none none
  rw [← after] at sent
  simp only [edit, typing, format_nil, prepare_eq (endsWith_nil f.history)]
  have shown : f.shown = (f.whole.settle none).screen := by rw [settled, Formatter.view_eq]
  rw [stacked.shown, shown, Formatter.view_eq]
  exact sent

theorem filter_isEffect_edits (h : Holds start style f ts) (quiet : start.TailIsQuiet)
    (settled : f.IsSettled) {batches : List (List Translation)}
    (follows : f.followsHistory (batches.map typing) = true) :
    (f.edits (batches.map typing)).flatten.filter Instruction.isEffect =
      (batches.flatten.flatMap Translation.effects).map Effect.instruction := by
  induction batches generalizing f ts with
  | nil => rfl
  | cons us rest ih =>
    simp only [List.map_cons, typing, followsHistory, Bool.and_eq_true, List.length_nil,
      takeBack_zero] at follows
    obtain ⟨⟨_, room⟩, later⟩ := follows
    have here := h.filter_isEffect_edit quiet settled room
    have holds := h.format (endsWith_nil f.history) (by simpa [takeBack_zero] using room)
    have others := ih holds (isSettled_after f (typing us)) later
    rw [List.map_cons, edits, List.flatten_cons, List.filter_append, here, List.flatten_cons,
      List.flatMap_append, List.map_append]
    exact congrArg _ others

end Holds

/-- However translations are batched, all that is typed sends the effects that they write, in order
and each of them once. -/
theorem effects_sent_once (s : FormatterSettings) (o : Orthography)
    (batches : List (List Translation))
    (follows : (new s o).followsHistory (batches.map typing) = true) :
    ((new s o).edits (batches.map typing)).flatten.filter Instruction.isEffect =
      (batches.flatten.flatMap Translation.effects).map Effect.instruction :=
  (holds_new s o).filter_isEffect_edits (Base.tailIsQuiet_ofStart _) (isSettled_new s o) follows

/-- A combination before an article that changes its mind, then a command whose text is joined to the
article; each request pushes the translation before it out of the history. -/
theorem effects_sent_once_around_article :
    let batches : List (List Translation) :=
      [[.ofEnglish "eat\x7b#return\x7d\x7b=[aeiou]/an/a\x7d"],
        [.ofEnglish "apple\x7bPLOVER:toggle\x7d"],
        [.ofEnglish "\x7b*!\x7d\x7b#tab\x7d", .ofEnglish "\x7b^s\x7d"]]
    let f := new { undoLevels := 1 } .empty
    f.followsHistory (batches.map typing) = true ∧
      (f.edits (batches.map typing)).flatten.filter Instruction.isEffect =
        [.keyCombo "return".toList, .engineCommand "toggle".toList, .keyCombo "tab".toList] ∧
      (f.run (batches.map typing)).rendered.text = " eat anapples".toList := by
  intro batches f
  have follows : f.followsHistory (batches.map typing) = true := by decide +kernel
  have written : batches.flatten.flatMap Translation.effects =
      [.keyCombo "return".toList, .engineCommand "toggle".toList, .keyCombo "tab".toList] := by
    decide +kernel
  have sent := effects_sent_once { undoLevels := 1 } .empty batches follows
  rw [written] at sent
  exact ⟨follows, sent, by decide +kernel⟩

end Formatter
end Stenotype
