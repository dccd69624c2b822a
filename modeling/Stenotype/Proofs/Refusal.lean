import Stenotype.Proofs.Edit
import Stenotype.Proofs.Run

/-!
# Sinks that refuse

A sink may refuse key combinations and commands as it likes. All of an edit is offered to it all the
same, and backspaces and strings do to its text what they do to a screen, so after every request its
text still ends with what the formatter has rendered. It is that and nothing else as long as nothing
is reset and the base is never cut back.
-/

set_option autoImplicit false

namespace Stenotype

namespace Sink
variable {σ : Type} {sink : Sink σ} {text : σ → Text}

/-- Taken or refused, an instruction does to the text of the sink what it does to a screen. -/
def KeepsText (sink : Sink σ) (text : σ → Text) : Prop :=
  ∀ s i, text (sink.send s i).1 = i.replay (text s)

/-- The sink, with a record of all that it was offered and of what it answered. -/
def recording (sink : Sink σ) : Sink (σ × List (Instruction × Option OutputError)) where
  send s i :=
    let (t, answer) := sink.send s.1 i
    ((t, s.2 ++ [(i, answer)]), answer)

theorem KeepsText.sendEach (keeps : sink.KeepsText text) (s : σ) (is : List Instruction) :
    text (sink.sendEach s is).1 = Instruction.replayAll (text s) is := by
  induction is generalizing s with
  | nil => rfl
  | cons i is ih =>
    change text (sink.sendEach (sink.send s i).1 is).1 = Instruction.replayAll (i.replay (text s)) is
    rw [ih, keeps s i]

theorem length_sendEach (s : σ) (is : List Instruction) :
    (sink.sendEach s is).2.length = is.length := by
  induction is generalizing s with
  | nil => rfl
  | cons i is ih => exact congrArg (· + 1) (ih (sink.send s i).1)

theorem sendEach_recording (s : σ) (log : List (Instruction × Option OutputError))
    (is : List Instruction) :
    sink.recording.sendEach (s, log) is =
      (((sink.sendEach s is).1, log ++ is.zip (sink.sendEach s is).2), (sink.sendEach s is).2) := by
  induction is generalizing s log with
  | nil => simp [Sink.sendEach]
  | cons i is ih =>
    have step : sink.recording.send (s, log) i =
        (((sink.send s i).1, log ++ [(i, (sink.send s i).2)]), (sink.send s i).2) := rfl
    simp only [Sink.sendEach, step, ih, List.zip_cons_cons, List.append_assoc,
      List.singleton_append]

theorem sendAll_recording (sink : Sink σ) (s : σ) (is : List Instruction) :
    ∃ offers : List (Instruction × Option OutputError),
      sink.recording.sendAll (s, []) is = (((sink.sendAll s is).1, offers), (sink.sendAll s is).2) ∧
        offers.map Prod.fst = is ∧ (sink.sendAll s is).2 = (offers.filterMap Prod.snd).head? := by
  have answered : is.length = (sink.sendEach s is).2.length := (length_sendEach s is).symm
  refine ⟨is.zip (sink.sendEach s is).2, ?_, List.map_fst_zip (Nat.le_of_eq answered), ?_⟩
  · simp only [sendAll, sendEach_recording, List.nil_append]
  · have answers := List.map_snd_zip (Nat.le_of_eq answered.symm)
    rw [← Function.id_comp (Prod.snd (α := Instruction)), ← List.filterMap_map, answers,
      List.head?_filterMap]
    rfl

end Sink

namespace Formatter
variable {σ : Type}

def send (sink : Sink σ) (f : Formatter) (s : σ) : ServiceCommand → Formatter × σ
  | .format r =>
    let (f, s, _) := f.formatTo sink s r.undo r.new r.prev
    (f, s)
  | .reset => (f.reset, s)

def runTo (sink : Sink σ) (f : Formatter) (s : σ) (cs : List ServiceCommand) : Formatter × σ :=
  cs.foldl (fun (f, s) c => f.send sink s c) (f, s)

def neverReseeds : Formatter → List ServiceCommand → Bool
  | _, [] => true
  | f, c :: cs =>
    (match c with
      | .format r => !f.needsReseed r.undo r.prev
      | .reset => true) && (f.after c).neverReseeds cs

/-- Nothing is reset, and the base stays within its limit. -/
def growsWithin : Formatter → List ServiceCommand → Bool
  | _, [] => true
  | f, c :: cs =>
    (match c with
      | .format r => ((f.prepare r.undo r.prev).takeBack r.undo.length).appendsWithin r.new
      | .reset => false) && (f.after c).growsWithin cs

theorem send_fst (sink : Sink σ) (f : Formatter) (s : σ) (c : ServiceCommand) :
    (f.send sink s c).1 = f.after c := by
  cases c <;> rfl

theorem runTo_fst (sink : Sink σ) (f : Formatter) (s : σ) (cs : List ServiceCommand) :
    (f.runTo sink s cs).1 = f.run cs :=
  (List.foldl_hom Prod.fst fun p c => (send_fst sink p.1 p.2 c).symm).symm

theorem texts_push (f : Formatter) (t : Translation) (slots : List Slot) :
    ∃ n, (f.push t slots).shown.text = f.shown.text.drop n ∧
      (f.push t slots).context.text = f.context.text.drop n := by
  rcases f.history.push_cases ⟨t.plain, slots⟩ with ⟨_, kept⟩ | ⟨first, rest, _, _, left⟩
  · refine ⟨0, ?_⟩
    simp only [push, kept, List.drop_zero, and_self]
  · refine ⟨(f.base.absorb first).surplus, ?_⟩
    simp only [push, left, freeze_eq_dropFront, Screen.dropFront, and_self]

theorem texts_foldl_append (f : Formatter) (ts : List Translation) :
    ∃ n, (ts.foldl append f).shown.text = f.shown.text.drop n ∧
      (ts.foldl append f).context.text = f.context.text.drop n := by
  induction ts generalizing f with
  | nil => exact ⟨0, rfl, rfl⟩
  | cons t ts ih =>
    obtain ⟨n, shown, context⟩ := texts_push f t (f.resolveNext t)
    obtain ⟨m, shown', context'⟩ := ih (f.append t)
    refine ⟨n + m, ?_, ?_⟩
    · rw [List.foldl_cons, shown', append, shown, List.drop_drop]
    · rw [List.foldl_cons, context', append, context, List.drop_drop]

/-- The screen of a sink is what stood in front, and then what the formatter shows. -/
structure ShownAfter (front : Text) (f : Formatter) (screen : Text) : Prop where
  context : f.context.text = []
  screen : screen = front ++ f.shown.text

namespace ShownAfter
variable {front screen : Text} {f : Formatter}

theorem rendered (h : ShownAfter front f screen) : screen = front ++ f.rendered.text := by
  have all : f.rendered.text = f.shown.text := by
    simp [Formatter.rendered, Screen.dropFront, h.context, Text.commonLength]
  rw [all, h.screen]

/-- A request edits what the formatter shows; what its base loses meanwhile comes to stand in
front. -/
theorem format (h : ShownAfter front f screen) {r : Request}
    (steady : f.needsReseed r.undo r.prev = false) :
    ∃ front', ShownAfter front' (f.after (.format r))
        (Instruction.replayAll screen (f.edit (.format r))) ∧
      (((f.prepare r.undo r.prev).takeBack r.undo.length).appendsWithin r.new = true →
        front' = front) := by
  have same : f.prepare r.undo r.prev = f := by simp [prepare, steady]
  let g := r.new.foldl append (f.takeBack r.undo.length)
  have edit : f.edit (.format r) = Screen.diff g.shown (g.view none).screen := by
    simp only [Formatter.edit, Formatter.format, same, g]
  have after : f.after (.format r) = { g with shown := (g.view none).screen } := by
    simp only [Formatter.after, Formatter.format, same, g]
  obtain ⟨n, shown, context⟩ := texts_foldl_append (f.takeBack r.undo.length) r.new
  change g.shown.text = f.shown.text.drop n at shown
  change g.context.text = f.context.text.drop n at context
  rw [h.context, List.drop_nil] at context
  have split : screen = (front ++ f.shown.text.take n) ++ g.shown.text := by
    rw [h.screen, shown, List.append_assoc, List.take_append_drop]
  rw [same, edit, after]
  by_cases room : (f.takeBack r.undo.length).appendsWithin r.new = true
  · -- nothing was cut off, so nothing more stands in front
    obtain ⟨gone, stacked⟩ := foldl_append_stacks room
    have kept : g.shown = f.shown := stacked.shown
    refine ⟨front, ⟨context, ?_⟩, fun _ => rfl⟩
    rw [h.screen, ← kept]
    exact Screen.replayAll_append_diff _ _ _
  · refine ⟨front ++ f.shown.text.take n, ⟨context, ?_⟩, fun h => absurd h room⟩
    rw [split]
    exact Screen.replayAll_append_diff _ _ _

theorem runTo {σ : Type} {sink : Sink σ} {text : σ → Text} (keeps : sink.KeepsText text) {s : σ}
    (h : ShownAfter front f (text s)) {cs : List ServiceCommand}
    (never : f.neverReseeds cs = true) :
    ∃ front', ShownAfter front' (f.runTo sink s cs).1 (text (f.runTo sink s cs).2) ∧
      (f.growsWithin cs = true → front' = front) := by
  induction cs generalizing f s front with
  | nil => exact ⟨front, h, fun _ => rfl⟩
  | cons c cs ih =>
    simp only [neverReseeds, Bool.and_eq_true] at never
    cases c with
    | reset =>
      have cleared : ShownAfter (text s) f.reset (text s) := ⟨rfl, (List.append_nil _).symm⟩
      obtain ⟨front', later, -⟩ := ih cleared never.2
      exact ⟨front', later, fun grows => by simp [growsWithin] at grows⟩
    | format r =>
      obtain ⟨middle, here, within⟩ := h.format (r := r) (by simpa using never.1)
      rw [← keeps.sendEach] at here
      obtain ⟨front', later, within'⟩ := ih here never.2
      refine ⟨front', later, fun grows => ?_⟩
      simp only [growsWithin, Bool.and_eq_true] at grows
      rw [within' grows.2, within grows.1]

end ShownAfter

/-- However a sink refuses combinations and commands: every request leaves the formatter as if there
were no sink, each instruction of its edit is offered once and in order, the answer is the first
refusal if there is one, and then the text of the sink ends with what is rendered. The text that the
sink began with is all that stands in front as long as nothing is reset or cut off. -/
theorem refusals_keep_screen_in_step (s : FormatterSettings) (o : Orthography) {σ : Type}
    (sink : Sink σ) (text : σ → Text) (keeps : sink.KeepsText text) (start : σ)
    (cs : List ServiceCommand) (r : Request)
    (never : (new s o).neverReseeds (cs ++ [.format r]) = true) :
    let f := (new s o).run cs
    let g := (new s o).run (cs ++ [.format r])
    let before := ((new s o).runTo sink start cs).2
    let call := f.formatTo sink before r.undo r.new r.prev
    ((new s o).runTo sink start cs).1 = f ∧
      call.1 = g ∧
      (∃ offers : List (Instruction × Option OutputError),
        f.formatTo sink.recording (before, []) r.undo r.new r.prev =
            (call.1, (call.2.1, offers), call.2.2) ∧
          offers.map Prod.fst = (f.format r.undo r.new r.prev).2 ∧
          call.2.2 = (offers.filterMap Prod.snd).head?) ∧
      g.rendered.text <:+ text call.2.1 ∧
      ((new s o).growsWithin (cs ++ [.format r]) = true →
        text call.2.1 = text start ++ g.rendered.text) := by
  intro f g before call
  have out : (new s o).runTo sink start (cs ++ [.format r]) = (call.1, call.2.1) := by
    rw [runTo, List.foldl_append, List.foldl_cons, List.foldl_nil]
    change ((new s o).runTo sink start cs).1.send sink before (.format r) = _
    rw [runTo_fst]
    rfl
  have same : call.1 = g := by
    have last := runTo_fst sink (new s o) start (cs ++ [.format r])
    rwa [out] at last
  have blank : ShownAfter (text start) (new s o) (text start) := ⟨rfl, (List.append_nil _).symm⟩
  obtain ⟨front, shown, within⟩ := blank.runTo keeps never
  rw [out] at shown
  have screen := shown.rendered
  simp only [same] at screen
  obtain ⟨offers, recorded, each, answer⟩ :=
    Sink.sendAll_recording sink before (f.format r.undo r.new r.prev).2
  refine ⟨runTo_fst _ _ _ _, same, ⟨offers, ?_, each, answer⟩, ⟨front, screen.symm⟩, ?_⟩
  · simp only [formatTo, recorded, call]
  · intro grows
    rw [screen, within grows]

def everySecond : Sink (Text × Bool) where
  send s i :=
    ((i.replay s.1, s.2 != i.isEffect),
      if s.2 && i.isEffect then some (.rejected "busy".toList) else none)

def everySecondText (s : Text × Bool) : Text := s.1

/-- The first combination is taken. The second, which comes with what replaces the first word, is
refused, and the text after it is typed all the same. -/
theorem refusals_keep_screen_in_step_everySecond :
    let cs : List ServiceCommand := [.format { new := [.ofEnglish "one\x7b#tab\x7d"] }]
    let r : Request :=
      { undo := [.ofEnglish "one\x7b#tab\x7d"], new := [.ofEnglish "\x7b#return\x7dtwo"] }
    let f := (new {} .empty).run cs
    let g := (new {} .empty).run (cs ++ [.format r])
    let before := ((new {} .empty).runTo everySecond ([], false) cs).2
    let call := f.formatTo everySecond before r.undo r.new r.prev
    everySecond.KeepsText everySecondText ∧
      (new {} .empty).neverReseeds (cs ++ [.format r]) = true ∧
      before = (" one".toList, true) ∧
      call.2 = ((" two".toList, false), some (.rejected "busy".toList)) ∧
      call.1 = g ∧ g.rendered.text <:+ everySecondText call.2.1 := by
  intro cs r f g before call
  have keeps : everySecond.KeepsText everySecondText := fun s i => rfl
  have never : (new {} .empty).neverReseeds (cs ++ [.format r]) = true := by decide +kernel
  have kept :=
    refusals_keep_screen_in_step {} .empty everySecond everySecondText keeps ([], false) cs r
      never
  exact ⟨keeps, never, by decide +kernel, by decide +kernel, kept.2.1, kept.2.2.2.1⟩

end Formatter
end Stenotype
