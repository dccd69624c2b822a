import Stenotype.Proofs.Edit
import Stenotype.Proofs.Run

/-!
# The recorded screen

What a formatter has recorded is what base and history show, after whatever commands it was given:
so a request that neither takes back nor types anything asks for no edit, however often it comes and
whatever translation it names. The base has been made of the entries that have left the history since
it was begun. What it lost when it grew too long does not matter for the last action, which is that
of the last slot of all these entries and of those that are held.
-/

set_option autoImplicit false

namespace Stenotype

namespace Base

/-- The base after an entry has moved into it, cut back if it grew too long. -/
def freeze (b : Base) (e : Entry) : Base := (b.absorb e).dropFront (b.absorb e).surplus

theorem last_settle_foldl_freeze (b : Base) (gone es : List Entry) (next : Option Text) :
    ((es.foldl absorb (gone.foldl freeze b)).settle next).last =
      (((gone ++ es).foldl absorb b).settle next).last := by
  induction gone generalizing b with
  | nil => rfl
  | cons e gone ih =>
    rw [List.foldl_cons, ih, freeze, last_settle_dropFront]
    rfl

end Base

namespace Formatter

/-- The base has been made of entries that have left the history, one after the other. -/
def HasFrozen (f : Formatter) (gone : List Entry) : Prop :=
  f.base = gone.foldl Base.freeze (Base.ofStart (startAction f.settings))

theorem settings_of_setup {f g : Formatter} (h : f.setup = g.setup) : f.settings = g.settings :=
  congrArg (fun setup => setup.1) h

namespace HasFrozen
variable {f : Formatter} {gone : List Entry}

theorem push (h : f.HasFrozen gone) (t : Translation) (slots : List Slot) :
    ∃ gone', (f.push t slots).HasFrozen gone' := by
  rcases f.history.push_cases ⟨t.plain, slots⟩ with ⟨_, kept⟩ | ⟨first, rest, _, _, left⟩
  · refine ⟨gone, ?_⟩
    simp only [Formatter.push, kept]
    exact h
  · refine ⟨gone ++ [first], ?_⟩
    simp only [Formatter.push, left, freeze_eq_dropFront]
    rw [HasFrozen, List.foldl_append, ← h]
    rfl

theorem foldl {add : Formatter → Translation → Formatter}
    (step : ∀ f t gone, HasFrozen f gone → ∃ gone', (add f t).HasFrozen gone')
    (h : f.HasFrozen gone) (ts : List Translation) : ∃ gone', (ts.foldl add f).HasFrozen gone' := by
  induction ts generalizing f gone with
  | nil => exact ⟨gone, h⟩
  | cons t ts ih =>
    obtain ⟨gone', here⟩ := step f t gone h
    exact ih here

theorem foldl_append (h : f.HasFrozen gone) (ts : List Translation) :
    ∃ gone', (ts.foldl append f).HasFrozen gone' :=
  h.foldl (fun _ t _ here => here.push t _) ts

theorem foldl_seed (h : f.HasFrozen gone) (ts : List Translation) :
    ∃ gone', (ts.foldl seed f).HasFrozen gone' :=
  h.foldl (fun _ t _ here => here.push t _) ts

theorem lastAction (h : f.HasFrozen gone) :
    f.lastAction =
      (History.actionsOf none (gone ++ f.history.entries)).getLastD (startAction f.settings) := by
  have all := Base.last_settle_foldl_freeze (Base.ofStart (startAction f.settings)) gone
    f.history.entries none
  rw [← h, Base.settle_foldl_absorb, Base.settle_foldl_absorb, View.last_applyAll_eq,
    View.last_applyAll_eq] at all
  rw [Formatter.lastAction, view_eq, whole, Base.settle_foldl_absorb, View.last_applyAll_eq]
  exact all

end HasFrozen

theorem hasFrozen_new (s : FormatterSettings) (o : Orthography) : (new s o).HasFrozen [] := rfl

theorem hasFrozen_reseed (f : Formatter) (undo : List Translation) (prev : Option Translation) :
    ∃ gone, (f.reseed undo prev).HasFrozen gone := by
  let cleared : Formatter :=
    { f with history := f.history.clear, base := Base.ofStart (startAction f.settings) }
  have start : cleared.HasFrozen [] := rfl
  obtain ⟨gone, before⟩ := start.foldl_seed prev.toList
  let after := prev.toList.foldl seed cleared
  let around : Formatter := { after with context := (after.view none).screen }
  have here : around.HasFrozen gone := before
  exact here.foldl_seed undo

theorem hasFrozen_after (f : Formatter) (c : ServiceCommand) (made : ∃ gone, f.HasFrozen gone) :
    ∃ gone, (f.after c).HasFrozen gone := by
  cases c with
  | reset => exact ⟨[], rfl⟩
  | format r =>
    have ready : ∃ gone, (f.prepare r.undo r.prev).HasFrozen gone := by
      unfold prepare
      split
      · exact hasFrozen_reseed f r.undo r.prev
      · exact made
    obtain ⟨gone, ready⟩ := ready
    have back : ((f.prepare r.undo r.prev).takeBack r.undo.length).HasFrozen gone := ready
    exact back.foldl_append r.new

theorem hasFrozen_run (s : FormatterSettings) (o : Orthography) (cs : List ServiceCommand) :
    ∃ gone, ((new s o).run cs).HasFrozen gone :=
  run_induction (P := fun f => ∃ gone, f.HasFrozen gone) ⟨[], hasFrozen_new s o⟩ hasFrozen_after cs

def idling (prev : Option Translation) : ServiceCommand := .format { prev := prev }

theorem isSettled_prepare {f : Formatter} (settled : f.IsSettled) (undo : List Translation)
    (prev : Option Translation) : (f.prepare undo prev).IsSettled := by
  unfold prepare
  split
  · rfl
  · exact settled

theorem edit_idling {f : Formatter} (settled : f.IsSettled) (prev : Option Translation) :
    f.edit (idling prev) = [] := by
  have same : (f.prepare [] prev).shown = ((f.prepare [] prev).view none).screen :=
    isSettled_prepare settled [] prev
  change (f.format [] [] prev).2 = []
  rw [format_nil, List.foldl_nil]
  dsimp only
  rw [same, Screen.diff_self]

theorem edits_idling {f : Formatter} (settled : f.IsSettled) (prevs : List (Option Translation)) :
    f.edits (prevs.map idling) = prevs.map fun _ => [] := by
  induction prevs generalizing f with
  | nil => rfl
  | cons prev prevs ih =>
    rw [List.map_cons, edits, edit_idling settled, ih (isSettled_after f _), List.map_cons]

/-- After any commands the recorded screen is the one that base and history show. The base has been
made of entries that left the history; together with those held they end with the last action. No
request that neither takes back nor types has an edit, whichever translations such requests name,
one after the other. -/
theorem recorded_is_rendered (s : FormatterSettings) (o : Orthography) (cs : List ServiceCommand) :
    let f := (new s o).run cs
    f.shown = (f.view none).screen ∧
      (∃ gone : List Entry,
        f.base = gone.foldl Base.freeze (Base.ofStart (startAction s)) ∧
          f.lastAction =
            (History.actionsOf none (gone ++ f.history.entries)).getLastD (startAction s)) ∧
      ∀ prevs : List (Option Translation), f.edits (prevs.map idling) = prevs.map fun _ => [] := by
  intro f
  have settled : f.IsSettled := isSettled_run s o cs
  have settings : f.settings = s := settings_of_setup (setup_run (new s o) cs)
  obtain ⟨gone, made⟩ := hasFrozen_run s o cs
  refine ⟨settled, ⟨gone, ?_, ?_⟩, edits_idling settled⟩
  · rw [← settings]
    exact made
  · rw [← settings]
    exact made.lastAction

end Formatter
end Stenotype
