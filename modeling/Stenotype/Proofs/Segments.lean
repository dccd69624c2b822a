import Stenotype.Session
import Stenotype.Proofs.Edit
import Stenotype.Proofs.Exchange
import Stenotype.Proofs.Held

/-!
# Sessions in segments

A session keeps its own stack of what was submitted, next to the history of the formatter. The two
stay in step while the stack is no deeper than the history: every line then finds what it takes
back, and what it names as the translation before never has the history built anew. A reset ends a
segment. What stands on screen by then stays, and the next segment is typed behind it.
-/

set_option autoImplicit false

namespace Stenotype

namespace Event

def left : List Translation → Event → List Translation
  | ts, translation t => t :: ts
  | ts, takeBack => ts.tail
  | _, reset => []

/-- The translations that are left at the end of each segment; a reset ends a segment. -/
def leftovers : List Translation → List Event → List (List Translation)
  | ts, [] => [ts]
  | ts, reset :: es => ts :: leftovers [] es
  | ts, e :: es => leftovers (left ts e) es

def depthWithin (n : Nat) : List Translation → List Event → Bool
  | _, [] => true
  | ts, e :: es => (left ts e).length ≤ n && depthWithin n (left ts e) es

theorem depthWithin_append {n : Nat} {ts : List Translation} {es later : List Event}
    (shallow : depthWithin n ts (es ++ later) = true) :
    depthWithin n ts es = true ∧ depthWithin n (es.foldl left ts) later = true := by
  induction es generalizing ts with
  | nil => exact ⟨rfl, shallow⟩
  | cons e es ih =>
    simp only [List.cons_append, depthWithin, Bool.and_eq_true] at shallow ⊢
    obtain ⟨first, rest⟩ := ih shallow.2
    exact ⟨⟨shallow.1, first⟩, rest⟩

theorem leftovers_of_ne_reset {e : Event} (typing : e ≠ reset) (ts : List Translation)
    (es : List Event) : leftovers ts (e :: es) = leftovers (left ts e) es := by
  cases e with
  | reset => exact absurd rfl typing
  | translation _ | takeBack => rfl

theorem ofLine?_blank {line : Text} (blank : Text.trim line = []) : ofLine? line = none := by
  rw [ofLine?, blank]
  rfl

end Event

namespace Instruction

/-- Replayed on `shown`, the instructions never take back more than there is. -/
def takesBackOwn : Text → List Instruction → Bool
  | _, [] => true
  | shown, backspaces n :: is => n ≤ shown.length && takesBackOwn (Text.dropLast n shown) is
  | shown, i :: is => takesBackOwn (i.replay shown) is

theorem takesBackOwn_append (shown : Text) (is js : List Instruction) :
    takesBackOwn shown (is ++ js) =
      (takesBackOwn shown is && takesBackOwn (replayAll shown is) js) := by
  induction is generalizing shown with
  | nil => rfl
  | cons i is ih =>
    cases i <;> simp only [List.cons_append, takesBackOwn, ih, Bool.and_assoc] <;> rfl

theorem takesBackOwn_of_backspaceCount_le {shown : Text} {is : List Instruction}
    (le : backspaceCount is ≤ shown.length) : takesBackOwn shown is = true := by
  induction is generalizing shown with
  | nil => rfl
  | cons i is ih =>
    cases i with
    | backspaces n =>
      simp only [backspaceCount] at le
      have here : n ≤ shown.length := by omega
      have later : takesBackOwn (Text.dropLast n shown) is = true :=
        ih (by rw [Text.dropLast, List.length_take]; omega)
      rw [takesBackOwn, decide_eq_true here, later, Bool.and_true]
    | string s =>
      refine ih ?_
      simp only [backspaceCount] at le
      rw [replay, List.length_append]
      omega
    | keyCombo _ | engineCommand _ => exact ih le

theorem takesBackOwn_behind (front : Text) {shown : Text} {is : List Instruction}
    (own : takesBackOwn shown is = true) :
    takesBackOwn (front ++ shown) is = true ∧
      replayAll (front ++ shown) is = front ++ replayAll shown is := by
  induction is generalizing shown with
  | nil => exact ⟨rfl, rfl⟩
  | cons i is ih =>
    cases i with
    | backspaces n =>
      simp only [takesBackOwn, Bool.and_eq_true, decide_eq_true_eq] at own
      have back := Text.dropLast_append_right front own.1
      have here : n ≤ (front ++ shown).length := by
        rw [List.length_append]
        exact own.1.trans (Nat.le_add_left _ _)
      obtain ⟨later, replayed⟩ := ih own.2
      rw [takesBackOwn, decide_eq_true here, back, later]
      change _ ∧ replayAll (Text.dropLast n (front ++ shown)) is = _
      rw [back, replayed]
      exact ⟨rfl, rfl⟩
    | string s =>
      have typed : front ++ shown ++ s = front ++ replay shown (string s) := List.append_assoc _ _ _
      change takesBackOwn (front ++ shown ++ s) is = true ∧ replayAll (front ++ shown ++ s) is = _
      rw [typed]
      exact ih own
    | keyCombo _ | engineCommand _ => exact ih own

theorem prefix_replayAll_take (front : Text) {is : List Instruction}
    (own : takesBackOwn [] is = true) (n : Nat) : front <+: replayAll front (is.take n) := by
  have parts := takesBackOwn_append [] (is.take n) (is.drop n)
  rw [List.take_append_drop, own] at parts
  have replayed := (takesBackOwn_behind front (Bool.and_eq_true_iff.1 parts.symm).1).2
  rw [List.append_nil] at replayed
  exact ⟨_, replayed.symm⟩

end Instruction

theorem Screen.takesBackOwn_diff (old new : Screen) :
    Instruction.takesBackOwn old.text (diff old new) = true :=
  Instruction.takesBackOwn_of_backspaceCount_le (by rw [backspaceCount_diff]; exact Nat.sub_le _ _)

theorem Service.collect_handle {s : Service} (running : s.isRunning = true)
    (heard : s.isHeard = true) (delivered : s.delivered = []) (c : ServiceCommand) :
    (s.handle c).collect.1.flatten = s.formatter.edit c ∧
      (s.handle c).collect.2 =
        { s with
          formatter := s.formatter.after c
          status := s.status.afterCommand (s.formatter.after c) } := by
  simp only [handle, running, Bool.not_true, Bool.false_eq_true, if_false, perform_eq, finish]
  by_cases empty : s.formatter.edit c = []
  · simp [empty, collect, delivered]
  · simp [empty, heard, collect, deliver, delivered]

namespace Formatter
variable {f : Formatter} {undo new : List Translation}

theorem format_of_found (new : List Translation) (found : f.history.endsWith undo = true) :
    f.format undo new none =
      let g := new.foldl append (f.takeBack undo.length)
      ({ g with shown := (g.view none).screen }, Screen.diff g.shown (g.view none).screen) := by
  rw [format, prepare_eq found]

theorem edit_of_found (found : f.history.endsWith undo = true)
    (within : (f.takeBack undo.length).appendsWithin new = true) :
    (f.format undo new none).2 = Screen.diff f.shown (f.format undo new none).1.shown := by
  obtain ⟨gone, stacked⟩ := foldl_append_stacks within
  have shown : (new.foldl append (f.takeBack undo.length)).shown = f.shown := stacked.shown
  rw [format_of_found new found, ← shown]

theorem length_format (found : f.history.endsWith undo = true)
    (room : (f.takeBack undo.length).history.entries.length + new.length ≤ f.history.capacity) :
    (f.format undo new none).1.history.entries.length =
      (f.takeBack undo.length).history.entries.length + new.length := by
  obtain ⟨gone, stacked⟩ := foldl_append_stacks (appendsWithin_of_room room)
  have all := stacked.length_eq
  have none_gone := stacked.gone_le
  have capacity : (f.takeBack undo.length).history.capacity = f.history.capacity := rfl
  rw [Base.length_entriesFor] at all none_gone
  rw [format_of_found new found]
  change (new.foldl append (f.takeBack undo.length)).history.entries.length = _
  omega

end Formatter

namespace Session
open Formatter (startAction Holds)
open Instruction (replayAll takesBackOwn)

def respond (s : Session) (e : Event) : Session × List Instruction :=
  match command s.submitted e with
  | (none, ts) => ({ s with submitted := ts }, [])
  | (some c, ts) =>
    let (batches, service) := (s.service.handle c).collect
    (⟨service, ts⟩, batches.flatten)

def respondLine (s : Session) (line : Text) : Session × List Instruction :=
  match Event.ofLine? line with
  | some e => s.respond e
  | none => (s, [])

def respondLines : Session → List Text → Session × List (List Instruction)
  | s, [] => (s, [])
  | s, line :: lines =>
    let (s, is) := s.respondLine line
    let (s, rest) := s.respondLines lines
    (s, is :: rest)

def after (s : Session) (lines : List Text) : Session := (s.respondLines lines).1

def instructions (s : Session) (lines : List Text) : List Instruction :=
  (s.respondLines lines).2.flatten

theorem handle_eq (s : Session) (e : Event) :
    s.handle e = ((s.respond e).1, print (s.respond e).2) := by
  unfold handle respond
  generalize command s.submitted e = next
  obtain ⟨_ | c, ts⟩ := next <;> rfl

theorem handleLine_eq (s : Session) (line : Text) :
    s.handleLine line = ((s.respondLine line).1, print (s.respondLine line).2) := by
  unfold handleLine respondLine
  cases Event.ofLine? line with
  | none => rfl
  | some e => exact s.handle_eq e

theorem handleLines_eq (s : Session) (lines : List Text) :
    s.handleLines lines =
      ((s.respondLines lines).1, (s.respondLines lines).2.flatMap print) := by
  induction lines generalizing s with
  | nil => rfl
  | cons line lines ih =>
    simp only [handleLines, respondLines, handleLine_eq, ih, List.flatMap_cons]

theorem respondLines_cons_of_event {s : Session} {line : Text} {e : Event}
    (read : Event.ofLine? line = some e) (lines : List Text) :
    s.after (line :: lines) = (s.respond e).1.after lines ∧
      s.instructions (line :: lines) = (s.respond e).2 ++ (s.respond e).1.instructions lines := by
  have responded : s.respondLine line = s.respond e := by rw [respondLine, read]
  simp only [after, instructions, respondLines, responded, List.flatten_cons, and_self]

theorem respondLines_cons_of_none {s : Session} {line : Text} (idle : Event.ofLine? line = none)
    (lines : List Text) :
    s.after (line :: lines) = s.after lines ∧
      s.instructions (line :: lines) = s.instructions lines := by
  have passed : s.respondLine line = (s, []) := by rw [respondLine, idle]
  simp only [after, instructions, respondLines, passed, List.flatten_cons, List.nil_append,
    and_self]

theorem instructions_append (s : Session) (front back : List Text) :
    s.instructions (front ++ back) =
      s.instructions front ++ (s.after front).instructions back := by
  unfold instructions after
  induction front generalizing s with
  | nil => rfl
  | cons line front ih =>
    simp only [List.cons_append, respondLines, List.flatten_cons, ih, List.append_assoc]

theorem respond_takeBack_of_nil {s : Session} (empty : s.submitted = []) :
    s.respond .takeBack = (s, []) := by
  obtain ⟨service, submitted⟩ := s
  subst empty
  rfl

/-- The text that a new formatter renders for what a stack holds. -/
def renderedText (settings : FormatterSettings) (o : Orthography) (submitted : List Translation) :
    Text :=
  ((Formatter.new settings o).format [] submitted.reverse none).1.rendered.text

/-- The history holds the whole stack of the session, and the service does its work. -/
structure InStep (settings : FormatterSettings) (o : Orthography) (s : Session) : Prop where
  running : s.service.isRunning = true
  heard : s.service.isHeard = true
  delivered : s.service.delivered = []
  capacity : s.service.formatter.history.capacity = max settings.undoLevels 1
  settled : s.service.formatter.IsSettled
  holds : Holds (Base.ofStart (startAction settings)) ⟨settings.spacePlacement, o⟩
    s.service.formatter s.submitted.reverse
  held : s.service.formatter.history.entries.length = s.submitted.length
  shallow : s.submitted.length ≤ max settings.undoLevels 1

theorem inStep_ofFormatter (settings : FormatterSettings) (o : Orthography) :
    InStep settings o (ofFormatter (Formatter.new settings o)) where
  running := rfl
  heard := rfl
  delivered := rfl
  capacity := rfl
  settled := Formatter.isSettled_new settings o
  holds := Formatter.holds_new settings o
  held := rfl
  shallow := Nat.zero_le _

namespace InStep
variable {settings : FormatterSettings} {o : Orthography} {s : Session}

theorem shown_text (h : InStep settings o s) :
    s.service.formatter.shown.text = renderedText settings o s.submitted := by
  have room : ((Formatter.new settings o).takeBack 0).appendsWithin s.submitted.reverse = true := by
    rw [Formatter.takeBack_zero]
    refine Formatter.appendsWithin_of_room ?_
    rw [List.length_reverse]
    exact (Nat.zero_add _).trans_le h.shallow
  have typed := (Formatter.holds_new settings o).format (Formatter.endsWith_nil _) room
  have settled := Formatter.isSettled_after (Formatter.new settings o)
    (.format { new := s.submitted.reverse })
  rw [← Formatter.rendered_eq_shown h.holds.context, h.holds.rendered_eq typed h.settled settled]
  rfl

end InStep

theorem renderedText_nil (settings : FormatterSettings) (o : Orthography) :
    renderedText settings o [] = [] :=
  (inStep_ofFormatter settings o).shown_text.symm

namespace InStep
variable {settings : FormatterSettings} {o : Orthography} {s : Session}

theorem prepare_eq (h : InStep settings o s) {undo : List Translation} {prev : Option Translation}
    (found : s.service.formatter.history.endsWith undo = true)
    (named : s.submitted = [] → prev = none) :
    s.service.formatter.prepare undo prev = s.service.formatter := by
  rcases Formatter.prepare_cases prev found with same | ⟨t, rfl, _, fresh, _⟩
  · exact same
  · have empty := h.held
    rw [Formatter.isEmpty_of_isFresh fresh] at empty
    exact absurd (named (List.eq_nil_of_length_eq_zero empty.symm)) (Option.some_ne_none t)

theorem format_eq (h : InStep settings o s) {undo : List Translation} {prev : Option Translation}
    (new : List Translation) (found : s.service.formatter.history.endsWith undo = true)
    (named : s.submitted = [] → prev = none) :
    s.service.formatter.format undo new prev = s.service.formatter.format undo new none := by
  rw [Formatter.format, Formatter.format, h.prepare_eq found named, Formatter.prepare_eq found]

theorem endsWith_top (h : InStep settings o s) {t : Translation} {ts : List Translation}
    (stack : s.submitted = t :: ts) : s.service.formatter.history.endsWith [t] = true := by
  refine Formatter.endsWith_of_map_suffix ?_
  refine List.suffix_of_suffix_length_le ?_ h.holds.translations_suffix ?_
  · rw [stack, List.reverse_cons, List.map_append]
    exact List.suffix_append _ _
  · rw [List.length_map, List.length_map, h.held, stack]
    exact Nat.le_add_left _ _

theorem format (h : InStep settings o s) (undo new : List Translation) {ts : List Translation}
    {prev : Option Translation} (found : s.service.formatter.history.endsWith undo = true)
    (named : s.submitted = [] → prev = none)
    (stack : ts.reverse =
      s.submitted.reverse.take (s.submitted.reverse.length - undo.length) ++ new)
    (shallow : ts.length ≤ max settings.undoLevels 1) :
    let c := ServiceCommand.format ⟨undo, new, prev⟩
    let next : Session := ⟨(s.service.handle c).collect.2, ts⟩
    InStep settings o next ∧
      s.service.formatter.edit c =
        Screen.diff s.service.formatter.shown next.service.formatter.shown := by
  intro c next
  have after : next.service = { s.service with
      formatter := s.service.formatter.after c
      status := s.service.status.afterCommand (s.service.formatter.after c) } :=
    (Service.collect_handle h.running h.heard h.delivered c).2
  have request := h.format_eq new found named
  have formatter : next.service.formatter = (s.service.formatter.format undo new none).1 := by
    rw [after, ← request]
    rfl
  -- stack and history lose and gain alike, so the depth of the stack is room enough
  have stack_length : ts.length = s.submitted.length - undo.length + new.length := by
    simpa using congrArg List.length stack
  have count : (s.service.formatter.takeBack undo.length).history.entries.length + new.length =
      ts.length := by
    have fewer := Formatter.length_le_of_endsWith found
    have held := h.held
    rw [Formatter.takeBack, History.popMany, List.length_take]
    omega
  have room := count.trans_le (shallow.trans_eq h.capacity.symm)
  have within : (s.service.formatter.takeBack undo.length).appendsWithin new = true :=
    Formatter.appendsWithin_of_room room
  have typed := h.holds.format found within
  rw [← stack] at typed
  refine ⟨⟨?_, ?_, ?_, ?_, ?_, ?_, ?_, shallow⟩, ?_⟩
  · rw [after]
    rfl
  · rw [after]
    exact h.heard
  · rw [after]
    exact h.delivered
  · rw [after]
    exact (Formatter.capacity_of_setup (Formatter.setup_after _ c)).trans h.capacity
  · rw [after]
    exact Formatter.isSettled_after _ c
  · rw [formatter]
    exact typed
  · rw [formatter]
    exact (Formatter.length_format found room).trans count
  · have edit : s.service.formatter.edit c = (s.service.formatter.format undo new none).2 := by
      rw [← request]
      rfl
    rw [edit, formatter]
    exact Formatter.edit_of_found found within

theorem respond_reset (h : InStep settings o s) :
    InStep settings o (s.respond .reset).1 ∧ (s.respond .reset).2 = [] := by
  obtain ⟨edit, after⟩ := Service.collect_handle h.running h.heard h.delivered .reset
  refine ⟨?_, edit⟩
  change InStep settings o ⟨(s.service.handle .reset).collect.2, []⟩
  rw [after]
  exact ⟨rfl, h.heard, h.delivered, h.capacity, Formatter.isSettled_after _ .reset, h.holds.reset,
    rfl, Nat.zero_le _⟩

theorem respond_translation (h : InStep settings o s) (t : Translation)
    (shallow : (t :: s.submitted).length ≤ max settings.undoLevels 1) :
    InStep settings o (s.respond (.translation t)).1 ∧
      (s.respond (.translation t)).2 = Screen.diff s.service.formatter.shown
        (s.respond (.translation t)).1.service.formatter.shown := by
  have named : s.submitted = [] → s.submitted.head? = none := List.head?_eq_none_iff.2
  have stack : (t :: s.submitted).reverse =
      s.submitted.reverse.take (s.submitted.reverse.length - 0) ++ [t] := by
    rw [Nat.sub_zero, List.take_length, List.reverse_cons]
  obtain ⟨kept, edit⟩ := h.format [] [t] (Formatter.endsWith_nil _) named stack shallow
  exact ⟨kept, (Service.collect_handle h.running h.heard h.delivered _).1.trans edit⟩

theorem respond_takeBack (h : InStep settings o s) :
    InStep settings o (s.respond .takeBack).1 ∧
      (s.respond .takeBack).1.submitted = s.submitted.tail ∧
      (s.respond .takeBack).2 = Screen.diff s.service.formatter.shown
        (s.respond .takeBack).1.service.formatter.shown := by
  obtain ⟨service, _ | ⟨t, ts⟩⟩ := s
  · rw [respond_takeBack_of_nil rfl]
    exact ⟨h, rfl, (Screen.diff_self _).symm⟩
  · have named : t :: ts = [] → ts.head? = none := fun no => absurd no (List.cons_ne_nil t ts)
    have stack : ts.reverse =
        (t :: ts).reverse.take ((t :: ts).reverse.length - [t].length) ++ [] := by
      rw [List.length_reverse, List.length_cons, List.length_singleton, Nat.add_sub_cancel,
        List.append_nil, List.reverse_cons, List.take_left' List.length_reverse]
    obtain ⟨kept, edit⟩ := h.format [t] [] (h.endsWith_top rfl) named stack
      ((Nat.le_succ _).trans h.shallow)
    exact ⟨kept, rfl, (Service.collect_handle h.running h.heard h.delivered _).1.trans edit⟩

theorem respond_typing (h : InStep settings o s) {e : Event} (typing : e ≠ .reset)
    (shallow : (Event.left s.submitted e).length ≤ max settings.undoLevels 1) :
    InStep settings o (s.respond e).1 ∧ (s.respond e).1.submitted = Event.left s.submitted e ∧
      (s.respond e).2 = Screen.diff s.service.formatter.shown
        (s.respond e).1.service.formatter.shown := by
  cases e with
  | translation t =>
    obtain ⟨kept, edit⟩ := h.respond_translation t shallow
    exact ⟨kept, rfl, edit⟩
  | takeBack => exact h.respond_takeBack
  | reset => exact absurd rfl typing

theorem replay_of_diff {s' : Session} (h : InStep settings o s) (h' : InStep settings o s')
    {is : List Instruction}
    (edit : is = Screen.diff s.service.formatter.shown s'.service.formatter.shown) :
    takesBackOwn (renderedText settings o s.submitted) is = true ∧
      replayAll (renderedText settings o s.submitted) is =
        renderedText settings o s'.submitted := by
  rw [edit, ← h.shown_text, ← h'.shown_text]
  exact ⟨Screen.takesBackOwn_diff _ _, Screen.replayAll_diff _ _⟩

/-- Line by line the screen shows what each segment left behind, and at its end what the stack
holds. -/
theorem respondLines (h : InStep settings o s) {lines : List Text}
    (shallow : Event.depthWithin (max settings.undoLevels 1) s.submitted
      (lines.filterMap Event.ofLine?) = true) :
    let events := lines.filterMap Event.ofLine?
    let shown := renderedText settings o s.submitted
    let is := s.instructions lines
    InStep settings o (s.after lines) ∧
      (s.after lines).submitted = events.foldl Event.left s.submitted ∧
      takesBackOwn shown is = true ∧
      replayAll shown is =
        (Event.leftovers s.submitted events).flatMap (renderedText settings o) := by
  induction lines generalizing s with
  | nil => exact ⟨h, rfl, rfl, (List.append_nil _).symm⟩
  | cons line lines ih =>
    intro events shown is
    cases read : Event.ofLine? line with
    | none =>
      obtain ⟨same, quiet⟩ := respondLines_cons_of_none (s := s) read lines
      simp only [events, is, same, quiet, List.filterMap_cons, read] at shallow ⊢
      exact ih h shallow
    | some e =>
      obtain ⟨next, all⟩ := respondLines_cons_of_event (s := s) read lines
      simp only [events, is, next, all, List.filterMap_cons, read, Event.depthWithin,
        Bool.and_eq_true, decide_eq_true_eq] at shallow ⊢
      obtain ⟨here, later⟩ := shallow
      by_cases typing : e = .reset
      · subst typing
        obtain ⟨kept, quiet⟩ := h.respond_reset
        obtain ⟨last, stack, own, replayed⟩ := ih kept later
        -- what comes now is typed behind what the segment has left
        rw [show (s.respond .reset).1.submitted = [] from rfl, renderedText_nil] at own replayed
        obtain ⟨own, behind⟩ := Instruction.takesBackOwn_behind shown own
        rw [List.append_nil] at own behind
        rw [quiet, List.nil_append]
        exact ⟨last, stack, own, behind.trans (congrArg (shown ++ ·) replayed)⟩
      · obtain ⟨kept, top, edit⟩ := h.respond_typing typing here
        obtain ⟨own, replayed⟩ := h.replay_of_diff kept edit
        rw [← top] at later
        obtain ⟨last, stack, later_own, later_replayed⟩ := ih kept later
        rw [Instruction.takesBackOwn_append, Instruction.replayAll_append, own, replayed,
          Event.leftovers_of_ne_reset typing, ← top]
        exact ⟨last, by rw [stack, top, List.foldl_cons], later_own, later_replayed⟩

end InStep

theorem InStep.takesBackOwn_of_reset {settings : FormatterSettings} {o : Orthography} {s : Session}
    (h : InStep settings o s) {line : Text} {back : List Text}
    (reset : Event.ofLine? line = some .reset)
    (shallow : Event.depthWithin (max settings.undoLevels 1) s.submitted
      ((line :: back).filterMap Event.ofLine?) = true) :
    takesBackOwn [] (s.instructions (line :: back)) = true := by
  obtain ⟨kept, quiet⟩ := h.respond_reset
  simp only [List.filterMap_cons, reset, Event.depthWithin, Bool.and_eq_true] at shallow
  obtain ⟨_, _, own, _⟩ := kept.respondLines shallow.2
  rw [show (s.respond .reset).1.submitted = [] from rfl, renderedText_nil] at own
  rw [(respondLines_cons_of_event reset back).2, quiet]
  exact own

/-- Where the stack is never deeper than the history, which has room for one translation at least,
the instructions of a session replay to what new formatters render for the stacks that its segments
leave behind. A line that is blank or malformed or finds nothing to take back asks for nothing and
changes nothing. After a reset nothing that was on screen is taken back. -/
theorem session_shows_leftovers (settings : FormatterSettings) (o : Orthography)
    (lines : List Text)
    (shallow : Event.depthWithin (max settings.undoLevels 1) []
      (lines.filterMap Event.ofLine?) = true) :
    let start := ofFormatter (Formatter.new settings o)
    start.handleLines lines = (start.after lines, (start.respondLines lines).2.flatMap print) ∧
      replayAll [] (start.instructions lines) =
        (Event.leftovers [] (lines.filterMap Event.ofLine?)).flatMap (renderedText settings o) ∧
      ∀ front line back, lines = front ++ line :: back →
        let s := start.after front
        let left := (front.filterMap Event.ofLine?).foldl Event.left []
        (Text.trim line = [] ∨ Event.ofLine? line = none ∨
            (Event.ofLine? line = some .takeBack ∧ left = []) →
          s.respondLine line = (s, [])) ∧
        (Event.ofLine? line = some .reset →
          let earlier := replayAll [] (start.instructions front)
          let later := s.instructions (line :: back)
          start.instructions lines = start.instructions front ++ later ∧
            takesBackOwn [] later = true ∧ ∀ n, earlier <+: replayAll earlier (later.take n)) := by
  intro start
  have fresh : InStep settings o start := inStep_ofFormatter settings o
  refine ⟨handleLines_eq start lines, ?_, ?_⟩
  · obtain ⟨_, _, _, replayed⟩ := fresh.respondLines shallow
    rwa [show start.submitted = [] from rfl, renderedText_nil] at replayed
  · rintro front line back rfl s left
    rw [List.filterMap_append] at shallow
    obtain ⟨first, later⟩ := Event.depthWithin_append shallow
    obtain ⟨kept, stack, _, _⟩ := fresh.respondLines first
    have stack : s.submitted = left := stack
    refine ⟨?_, ?_⟩
    · rintro (blank | idle | ⟨undo, empty⟩)
      · rw [respondLine, Event.ofLine?_blank blank]
      · rw [respondLine, idle]
      · rw [respondLine, undo]
        exact respond_takeBack_of_nil (stack.trans empty)
    · intro reset earlier instructions
      have later : Event.depthWithin (max settings.undoLevels 1) left _ = true := later
      rw [← stack] at later
      have own := kept.takesBackOwn_of_reset reset later
      exact ⟨start.instructions_append front (line :: back), own,
        Instruction.prefix_replayAll_take earlier own⟩

def articleLines : List Text :=
  ["[[\"EU\"], \"\x7b=[aeiou]/an/a\x7d\"]", "[[\"AEPL\"], \"apple\"]", "*", "[\"PAER\"]",
    "[[\"PAER\"], \"pear\"]", "!reset", "*", "", "[[\"PAER\"], \"pear\"]"].map String.toList

theorem session_articleLines :
    Event.depthWithin (max 2 1) [] (articleLines.filterMap Event.ofLine?) = true ∧
      replayAll [] ((ofFormatter (Formatter.new { undoLevels := 2 } .empty)).instructions
        articleLines) = " a pear pear".toList := by
  have shallow : Event.depthWithin (max 2 1) [] (articleLines.filterMap Event.ofLine?) = true := by
    decide +kernel
  have shown := (session_shows_leftovers { undoLevels := 2 } .empty articleLines shallow).2.1
  have leftovers : (Event.leftovers [] (articleLines.filterMap Event.ofLine?)).flatMap
      (renderedText { undoLevels := 2 } .empty) = " a pear pear".toList := by
    decide +kernel
  exact ⟨shallow, shown.trans leftovers⟩

end Session
end Stenotype
