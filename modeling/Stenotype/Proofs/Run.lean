import Stenotype.Service
import Stenotype.Proofs.Window

/-!
# Runs

A run is what commands make of a formatter, one after the other. Between commands the recorded
screen is the one that base and history show, however much of it has been cut off.
-/

set_option autoImplicit false

namespace Stenotype

def Translation.ofEnglish (english : String) : Translation :=
  ofOutlines [['S']] (some english.toList)

namespace Formatter

def after (f : Formatter) : ServiceCommand → Formatter
  | .format r => (f.format r.undo r.new r.prev).1
  | .reset => f.reset

def run (f : Formatter) (cs : List ServiceCommand) : Formatter := cs.foldl after f

def edit (f : Formatter) : ServiceCommand → List Instruction
  | .format r => (f.format r.undo r.new r.prev).2
  | .reset => []

/-- The edits that commands ask for, one after the other. -/
def edits : Formatter → List ServiceCommand → List (List Instruction)
  | _, [] => []
  | f, c :: cs => f.edit c :: (f.after c).edits cs

theorem run_induction {P : Formatter → Prop} {f : Formatter} (start : P f)
    (step : ∀ f c, P f → P (f.after c)) (cs : List ServiceCommand) : P (f.run cs) := by
  induction cs generalizing f with
  | nil => exact start
  | cons c cs ih => exact ih (step f c start)

theorem prepare_eq {f : Formatter} {undo : List Translation}
    (e : f.history.endsWith undo = true) : f.prepare undo none = f := by
  simp [prepare, needsReseed, e]

theorem endsWith_nil (h : History) : h.endsWith [] = true := by
  simp [History.endsWith]

theorem all_same_of_map_eq {es : List Entry} {ts : List Translation}
    (same : es.map Entry.translation = ts.map Translation.plain) :
    ((es.zip ts).all fun (e, t) => e.translation.same t) = true := by
  induction es generalizing ts with
  | nil => rfl
  | cons e es ih =>
    cases ts with
    | nil => rfl
    | cons t ts =>
      rw [List.map_cons, List.map_cons] at same
      obtain ⟨first, others⟩ := List.cons.inj same
      have alike : e.translation.same t = true := by
        rw [first, Translation.same_plain, Translation.same_refl]
      rw [List.zip_cons_cons, List.all_cons, ih others, Bool.and_true]
      exact alike

theorem endsWith_of_suffix {h : History} {es : List Entry} {ts : List Translation}
    (newest : es <:+ h.entries) (same : es.map Entry.translation = ts.map Translation.plain) :
    h.endsWith ts = true := by
  obtain ⟨front, all⟩ := newest
  have len : es.length = ts.length := by simpa using congrArg List.length same
  have le : ts.length ≤ h.entries.length := by
    rw [← all, List.length_append]
    omega
  have last : h.entries.drop (h.entries.length - ts.length) = es := by
    rw [← all]
    exact List.drop_left' (by rw [List.length_append]; omega)
  rw [History.endsWith, last, all_same_of_map_eq same, decide_eq_true le]
  rfl

theorem takeBack_zero (f : Formatter) : f.takeBack 0 = f := by
  simp [takeBack, History.popMany]

theorem format_nil (f : Formatter) (new : List Translation) (prev : Option Translation) :
    f.format [] new prev =
      let g := new.foldl append (f.prepare [] prev)
      ({ g with shown := (g.view none).screen }, Screen.diff g.shown (g.view none).screen) := by
  simp only [format, List.length_nil, takeBack_zero]

theorem isEmpty_of_isFresh {f : Formatter} (fresh : f.isFresh = true) : f.history.entries = [] := by
  simp only [isFresh, Bool.and_eq_true, List.isEmpty_iff] at fresh
  exact fresh.1

/-- The recorded screen is what base and history show. -/
def IsSettled (f : Formatter) : Prop := f.shown = (f.view none).screen

theorem isSettled_new (s : FormatterSettings) (o : Orthography) : (new s o).IsSettled := rfl

theorem isSettled_after (f : Formatter) (c : ServiceCommand) : (f.after c).IsSettled := by
  cases c <;> rfl

theorem isSettled_run (s : FormatterSettings) (o : Orthography) (cs : List ServiceCommand) :
    ((new s o).run cs).IsSettled :=
  run_induction (isSettled_new s o) (fun f c _ => isSettled_after f c) cs

theorem rendered_eq_shown {f : Formatter} (h : f.context = Screen.blank) : f.rendered = f.shown := by
  simp [rendered, h, Screen.blank, Text.commonLength]

def setup (f : Formatter) : FormatterSettings × Orthography × Nat :=
  (f.settings, f.orthography, f.history.capacity)

theorem capacity_of_setup {f g : Formatter} (h : f.setup = g.setup) :
    f.history.capacity = g.history.capacity :=
  congrArg (fun setup => setup.2.2) h

theorem setup_push (f : Formatter) (t : Translation) (slots : List Slot) :
    (f.push t slots).setup = f.setup := by
  rcases f.history.push_cases ⟨t.plain, slots⟩ with ⟨_, kept⟩ | ⟨first, rest, _, _, left⟩
  · simp only [push, kept, setup]
  · simp only [push, left, freeze]
    split <;> rfl

theorem setup_foldl {add : Formatter → Translation → Formatter}
    (kept : ∀ f t, (add f t).setup = f.setup) (f : Formatter) (ts : List Translation) :
    (ts.foldl add f).setup = f.setup := by
  induction ts generalizing f with
  | nil => rfl
  | cons t ts ih => rw [List.foldl_cons, ih, kept]

theorem setup_foldl_append (f : Formatter) (ts : List Translation) :
    (ts.foldl append f).setup = f.setup :=
  setup_foldl (fun f t => setup_push f t _) f ts

theorem setup_foldl_seed (f : Formatter) (ts : List Translation) :
    (ts.foldl seed f).setup = f.setup :=
  setup_foldl (fun f t => setup_push f t _) f ts

theorem setup_reseed (f : Formatter) (undo : List Translation) (prev : Option Translation) :
    (f.reseed undo prev).setup = f.setup := by
  let cleared : Formatter :=
    { f with history := f.history.clear, base := Base.ofStart (startAction f.settings) }
  let after := prev.toList.foldl seed cleared
  let around : Formatter := { after with context := (after.view none).screen }
  calc
    (f.reseed undo prev).setup = (undo.foldl seed around).setup := rfl
    _ = around.setup := setup_foldl_seed around undo
    _ = after.setup := rfl
    _ = cleared.setup := setup_foldl_seed cleared prev.toList
    _ = f.setup := rfl

theorem setup_prepare (f : Formatter) (undo : List Translation) (prev : Option Translation) :
    (f.prepare undo prev).setup = f.setup := by
  unfold prepare
  split
  · exact setup_reseed f undo prev
  · rfl

theorem setup_after (f : Formatter) (c : ServiceCommand) : (f.after c).setup = f.setup := by
  cases c with
  | format r => exact (setup_foldl_append _ _).trans (setup_prepare _ _ _)
  | reset => rfl

theorem setup_run (f : Formatter) (cs : List ServiceCommand) : (f.run cs).setup = f.setup :=
  run_induction (P := fun g => g.setup = f.setup) rfl (fun g c same => (setup_after g c).trans same)
    cs

theorem capacity_new_pos (s : FormatterSettings) (o : Orthography) :
    0 < (new s o).history.capacity := by
  simp only [new, History.ofCapacity]
  omega

theorem capacity_run_pos (s : FormatterSettings) (o : Orthography) (cs : List ServiceCommand) :
    0 < ((new s o).run cs).history.capacity := by
  rw [capacity_of_setup (setup_run (new s o) cs)]
  exact capacity_new_pos s o

end Formatter
end Stenotype
