import Stenotype.Proofs.Held

/-!
# The translation before

A request may name the translation before those that it takes back. It is looked at only when the
history is built anew, which happens also when nothing is held and nothing is on screen. What is on
screen is not all that counts: the modes and the pending case of translations that have left the
history are in the last action, and building anew from one translation forgets what the others
before it have set. Where that makes no difference, nor does naming the translation.
-/

set_option autoImplicit false

namespace Stenotype

deriving instance DecidableEq for Base

def ServiceCommand.withoutPrev : ServiceCommand → ServiceCommand
  | .format r => .format { r with prev := none }
  | .reset => .reset

/-- Neither what is taken back nor what came before it remembers its slots. -/
def ServiceCommand.remembersNothing : ServiceCommand → Bool
  | .format r => (r.prev.toList ++ r.undo).all fun t => t.formatting.isNone
  | .reset => true

namespace Formatter
open ServiceCommand

/-- Commands of a caller who keeps the translations that are left: each request takes back the
newest of them, as many as the history holds at most, and names the one before. -/
def namesPrevious : Formatter → List Translation → List ServiceCommand → Bool
  | _, _, [] => true
  | f, _, .reset :: cs => f.reset.namesPrevious [] cs
  | f, ts, .format r :: cs =>
    (r.undo.map Translation.plain).isSuffixOf (ts.map Translation.plain) &&
      r.undo.length ≤ f.history.entries.length &&
      r.prev.map Translation.plain =
        (ts.take (ts.length - r.undo.length)).getLast?.map Translation.plain &&
      (f.after (.format r)).namesPrevious (left ts (.format r)) cs

/-- No request makes the base longer than its limit. -/
def staysWithin : Formatter → List ServiceCommand → Bool
  | _, [] => true
  | f, .reset :: cs => f.reset.staysWithin cs
  | f, .format r :: cs =>
    ((f.prepare r.undo r.prev).takeBack r.undo.length).appendsWithin r.new &&
      (f.after (.format r)).staysWithin cs

/-- Whenever a history is built anew, the formatter holds what it held: the same text and schedule,
the same last action, the same lookahead that is open. -/
def rebuildsAlike : Formatter → List ServiceCommand → Bool
  | _, [] => true
  | f, .reset :: cs => f.reset.rebuildsAlike cs
  | f, .format r :: cs =>
    (f.prepare r.undo r.prev).whole = f.whole && (f.after (.format r)).rebuildsAlike cs

theorem of_namesPrevious {f : Formatter} {ts : List Translation} {r : Request}
    {cs : List ServiceCommand} (caller : f.namesPrevious ts (.format r :: cs) = true) :
    r.undo.map Translation.plain <:+ ts.map Translation.plain ∧
      r.undo.length ≤ f.history.entries.length ∧
      r.prev.map Translation.plain =
        (ts.take (ts.length - r.undo.length)).getLast?.map Translation.plain ∧
      (f.after (.format r)).namesPrevious (left ts (.format r)) cs = true := by
  simp only [namesPrevious, Bool.and_eq_true, decide_eq_true_eq, List.isSuffixOf_iff_suffix]
    at caller
  exact ⟨caller.1.1.1, caller.1.1.2, caller.1.2, caller.2⟩

/-- The history of `f` reaches back one entry further, to the one that it was built anew from; `g`
has that entry in its base. -/
structure Ahead (f g : Formatter) (e : Entry) : Prop where
  entries : f.history.entries = e :: g.history.entries
  start : f.base = Base.ofStart (startAction f.settings)
  base : g.base = f.base.absorb e

namespace Ahead
variable {f g : Formatter} {e : Entry}

theorem whole (h : Ahead f g e) : f.whole = g.whole := by
  rw [Formatter.whole, h.entries, List.foldl_cons, ← h.base]
  rfl

theorem takeBack (h : Ahead f g e) {n : Nat} (held : n ≤ g.history.entries.length) :
    Ahead (f.takeBack n) (g.takeBack n) e := by
  refine ⟨?_, h.start, h.base⟩
  have count : (e :: g.history.entries).length - n = g.history.entries.length - n + 1 := by
    rw [List.length_cons]
    omega
  simp only [Formatter.takeBack, History.popMany, h.entries, count, List.take_succ_cons]

theorem length_of_lost (h : Ahead f g e) {undo : List Translation}
    (found : f.history.endsWith undo = true) (lost : g.history.endsWith undo ≠ true) :
    undo.length = f.history.entries.length := by
  have held := length_le_of_endsWith found
  by_contra fewer
  rw [h.entries, List.length_cons] at held fewer
  have count : (e :: g.history.entries).length - undo.length =
      g.history.entries.length - undo.length + 1 := by
    rw [List.length_cons]
    omega
  have short : undo.length ≤ g.history.entries.length := by omega
  rw [History.endsWith, h.entries, count, List.drop_succ_cons, Bool.and_eq_true] at found
  refine lost ?_
  rw [History.endsWith, decide_eq_true short, found.2]
  rfl

theorem append (h : Ahead f g e) (same : f.setup = g.setup)
    (fits : f.history.entries.length ≤ f.history.capacity) {t : Translation}
    (slots : f.resolveNext t = g.resolveNext t)
    (within : f.hasRoomFor ⟨t.plain, f.resolveNext t⟩ = true) :
    (SameWindow (f.append t) (g.append t) ∨ Ahead (f.append t) (g.append t) e) ∧
      (f.append t).shown = f.shown ∧ (g.append t).shown = g.shown := by
  have capacity := capacity_of_setup same
  have free : g.history.entries.length < g.history.capacity := by
    rw [h.entries, capacity, List.length_cons] at fits
    exact fits
  have trailing := append_of_room t free
  rcases f.history.push_cases ⟨t.plain, f.resolveNext t⟩ with
    ⟨more, _⟩ | ⟨first, rest, all, _, left⟩
  · have leading := append_of_room t more
    rw [leading, trailing]
    refine ⟨.inr ⟨?_, h.start, h.base⟩, rfl, rfl⟩
    simp only [h.entries, slots, List.cons_append]
  · -- the further entry leaves, and from now on both have it in their bases
    rw [h.entries, List.cons_append] at all
    obtain ⟨rfl, rfl⟩ := List.cons.inj all
    have short : (f.base.absorb e).view.screen.text.length ≤ Base.limit := by
      simpa [hasRoomFor, left] using within
    have leading : f.append t = { f with
        history := { f.history with entries := g.history.entries ++ [⟨t.plain, f.resolveNext t⟩] }
        base := f.base.absorb e } := by
      simp only [Formatter.append, push, left]
      rw [freeze_eq (by exact short)]
    simp only [setup, Prod.mk.injEq] at same
    rw [leading, trailing]
    refine ⟨.inl ⟨same.1, same.2.1, ?_, h.base.symm⟩, rfl, rfl⟩
    simp only [slots, capacity]

end Ahead

/-- Both hold and have recorded the same, but for one entry further back. -/
structure Trails (f g : Formatter) : Prop where
  setup : f.setup = g.setup
  shown : f.shown = g.shown
  room : 0 < f.history.capacity
  fits : f.history.entries.length ≤ f.history.capacity
  split : SameWindow f g ∨ ∃ e, Ahead f g e

namespace Trails
variable {f g : Formatter}

theorem capacity (h : Trails f g) : f.history.capacity = g.history.capacity :=
  capacity_of_setup h.setup

theorem settings (h : Trails f g) : f.settings = g.settings := congrArg Prod.fst h.setup

theorem orthography (h : Trails f g) : f.orthography = g.orthography :=
  congrArg (fun setup => setup.2.1) h.setup

theorem style (h : Trails f g) : f.style = g.style := by
  rw [Formatter.style, h.settings, h.orthography]
  rfl

theorem whole (h : Trails f g) : f.whole = g.whole := by
  rcases h.split with same | ⟨_, ahead⟩
  · exact same.whole
  · exact ahead.whole

theorem view (h : Trails f g) (next : Option Text) : f.view next = g.view next := by
  rw [view_eq, view_eq, h.whole]

theorem resolveNext (h : Trails f g) (t : Translation) : f.resolveNext t = g.resolveNext t := by
  rw [resolveNext_eq, resolveNext_eq, h.whole, h.style]

theorem append (h : Trails f g) {t : Translation}
    (within : f.hasRoomFor ⟨t.plain, f.resolveNext t⟩ = true) :
    Trails (f.append t) (g.append t) := by
  have slots := h.resolveNext t
  have setup : (f.append t).setup = (g.append t).setup := by
    rw [Formatter.append, Formatter.append, setup_push, setup_push, h.setup]
  have capacity : (f.append t).history.capacity = f.history.capacity :=
    capacity_of_setup (setup_push f t _)
  have room : 0 < (f.append t).history.capacity := by rw [capacity]; exact h.room
  have fits : (f.append t).history.entries.length ≤ (f.append t).history.capacity := by
    rw [capacity]
    exact length_entries_push_le t _ h.fits
  rcases h.split with same | ⟨e, ahead⟩
  · have agree : Agrees f g := ⟨same, h.shown⟩
    have after := agree.append t
    exact ⟨setup, after.shown, room, fits, .inl after.toSameWindow⟩
  · obtain ⟨split, leading, trailing⟩ := ahead.append h.setup h.fits slots within
    refine ⟨setup, ?_, room, fits, split.imp_right fun ahead => ⟨e, ahead⟩⟩
    rw [leading, trailing, h.shown]

theorem foldl_append (h : Trails f g) {ts : List Translation} (within : f.appendsWithin ts = true) :
    Trails (ts.foldl Formatter.append f) (ts.foldl Formatter.append g) := by
  induction ts generalizing f g with
  | nil => exact h
  | cons t ts ih =>
    simp only [appendsWithin, Bool.and_eq_true] at within
    exact ih (h.append within.1) within.2

theorem reseed_fresh (h : Trails f g) (sf : f.IsSettled) (fresh : f.isFresh = true)
    (t : Translation) (alike : (f.reseed [] (some t)).whole = f.whole) :
    Trails (f.reseed [] (some t)) g := by
  have none_held := isEmpty_of_isFresh fresh
  have setup := setup_reseed f [] (some t)
  have capacity := capacity_of_setup setup
  have nothing : f.base = f.whole := by rw [Formatter.whole, none_held, List.foldl_nil]
  obtain ⟨base, held⟩ := reseed_of_room f [] (some t) h.room
  have one := congrArg List.length held
  rw [List.length_map, List.length_map] at one
  obtain ⟨e, entries⟩ := List.length_eq_one_iff.1 one
  have same : SameWindow f g := h.split.resolve_right fun more => by
    obtain ⟨_, ahead⟩ := more
    simpa [none_held] using ahead.entries
  refine ⟨setup.trans h.setup, ?_, ?_, ?_, .inr ⟨e, ?_, ?_, ?_⟩⟩
  · rw [isSettled_reseed f [] (some t), view_eq, alike, ← view_eq, ← h.shown, sf]
  · rw [capacity]
    exact h.room
  · rw [capacity, entries]
    exact h.room
  · rw [entries, ← same.history, none_held]
  · rw [base]
    exact congrArg (fun setup => Base.ofStart (startAction setup.1)) setup.symm
  · rw [← same.base, nothing, ← alike, Formatter.whole, entries]
    rfl

theorem takeBack (h : Trails f g) {n : Nat} (held : n ≤ g.history.entries.length) :
    Trails (f.takeBack n) (g.takeBack n) := by
  have fits : (f.takeBack n).history.entries.length ≤ f.history.capacity :=
    Nat.le_trans (List.length_take_le' _ _) h.fits
  refine ⟨h.setup, h.shown, h.room, fits, ?_⟩
  rcases h.split with same | ⟨e, ahead⟩
  · exact .inl (same.takeBack n)
  · exact .inr ⟨e, ahead.takeBack held⟩

theorem takeBack_all (h : Trails f g)
    (start : f.base = Base.ofStart (startAction f.settings)) (sg : g.IsSettled)
    {undo : List Translation} (all : undo.length = f.history.entries.length)
    (alike : (g.reseed undo none).whole = g.whole) :
    Trails (f.takeBack undo.length) ((g.reseed undo none).takeBack undo.length) := by
  have setup := h.setup.trans (setup_reseed g undo none).symm
  have fits : undo.length ≤ g.history.capacity := by
    rw [all, ← h.capacity]
    exact h.fits
  obtain ⟨base, held⟩ := reseed_of_room g undo none fits
  have count : (g.reseed undo none).history.entries.length = undo.length := by
    simpa using congrArg List.length held
  have none_left : (f.takeBack undo.length).history.entries = [] := by
    simp only [Formatter.takeBack, History.popMany, all, Nat.sub_self, List.take_zero]
  have none_left' : ((g.reseed undo none).takeBack undo.length).history.entries = [] := by
    simp only [Formatter.takeBack, History.popMany, count, Nat.sub_self, List.take_zero]
  have history : (f.takeBack undo.length).history =
      ((g.reseed undo none).takeBack undo.length).history :=
    congrArg₂ History.mk (none_left.trans none_left'.symm) (capacity_of_setup setup)
  refine ⟨setup, ?_, h.room, ?_, .inl ⟨congrArg Prod.fst setup, ?_, history, ?_⟩⟩
  · change f.shown = (g.reseed undo none).shown
    rw [isSettled_reseed g undo none, view_eq, alike, ← view_eq, h.shown, sg]
  · rw [none_left]
    exact Nat.zero_le _
  · exact congrArg (fun setup => setup.2.1) setup
  · change f.base = (g.reseed undo none).base
    rw [start, base, h.settings]

theorem takeBack_prepare (h : Trails f g) (sf : f.IsSettled) (sg : g.IsSettled)
    {undo : List Translation} {prev : Option Translation} (found : f.history.endsWith undo = true)
    (alike : (f.prepare undo prev).whole = f.whole)
    (alike' : (g.prepare undo none).whole = g.whole) :
    Trails ((f.prepare undo prev).takeBack undo.length)
      ((g.prepare undo none).takeBack undo.length) := by
  rcases prepare_cases prev found with kept | ⟨t, rfl, rfl, fresh, anew⟩
  · rw [kept]
    by_cases found' : g.history.endsWith undo = true
    · rw [prepare_eq found']
      exact h.takeBack (length_le_of_endsWith found')
    · -- only the entry that `f` has and `g` has not can be missed, so all of them are taken back
      have anew' : g.needsReseed undo none = true := by simp [needsReseed, found']
      rw [prepare, if_pos anew'] at alike' ⊢
      rcases h.split with same | ⟨e, ahead⟩
      · rw [same.history] at found
        exact absurd found found'
      · exact h.takeBack_all ahead.start sg (ahead.length_of_lost found found') alike'
  · rw [anew] at alike ⊢
    rw [prepare_eq (endsWith_nil g.history), List.length_nil, takeBack_zero, takeBack_zero]
    exact h.reseed_fresh sf fresh t alike

theorem whole_prepare (h : Trails f g) (resolved : f.IsResolved) {undo : List Translation}
    (undone : undo.map Translation.plain <:+ f.history.entries.map Entry.translation)
    (bare : ∀ t ∈ undo, t.formatting = none) : (g.prepare undo none).whole = g.whole := by
  have found : f.history.endsWith undo = true := endsWith_of_map_suffix undone
  by_cases found' : g.history.endsWith undo = true
  · rw [prepare_eq found']
  · have anew' : g.needsReseed undo none = true := by simp [needsReseed, found']
    rw [prepare, if_pos anew']
    rcases h.split with same | ⟨e, ahead⟩
    · rw [same.history] at found
      exact absurd found found'
    · -- `g` misses but the oldest entry of `f`, so all that `f` holds is taken back and put back
      have count := ahead.length_of_lost found found'
      have all := undone.eq_of_length (by rw [List.length_map, List.length_map, count])
      have fits : undo.length ≤ g.history.capacity := by
        rw [count, ← h.capacity]
        exact h.fits
      calc
        (g.reseed undo none).whole =
            undo.foldl (Base.add g.style) (Base.ofStart (startAction g.settings)) :=
          whole_reseed_of_room bare fits
        _ = undo.foldl (Base.add f.style) f.base := by rw [h.style, ahead.start, h.settings]
        _ = (undo.map Translation.plain).foldl (Base.add f.style) f.base := by
          rw [← Base.foldl_absorb_entriesFor, ← Base.entriesFor_map_plain,
            Base.foldl_absorb_entriesFor]
        _ = f.whole := by rw [all, resolved.whole]
        _ = g.whole := h.whole

theorem record (h : Trails f g) : Trails { f with shown := (f.view none).screen }
    { g with shown := (g.view none).screen } := by
  refine ⟨h.setup, congrArg View.screen (h.view none), h.room, h.fits, ?_⟩
  rcases h.split with same | ⟨e, ahead⟩
  · exact .inl ⟨same.settings, same.orthography, same.history, same.base⟩
  · exact .inr ⟨e, ahead.entries, ahead.start, ahead.base⟩

theorem reset (h : Trails f g) : Trails f.reset g.reset :=
  ⟨h.setup, rfl, h.room, Nat.zero_le _, .inl (sameWindow_reset h.setup)⟩

/-- A request asks for the same edit with the translation before and without it. -/
theorem after (h : Trails f g) (sf : f.IsSettled) (sg : g.IsSettled) {r : Request}
    (found : f.history.endsWith r.undo = true)
    (within : ((f.prepare r.undo r.prev).takeBack r.undo.length).appendsWithin r.new = true)
    (alike : (f.prepare r.undo r.prev).whole = f.whole)
    (alike' : (g.prepare r.undo none).whole = g.whole) :
    f.edit (.format r) = g.edit (withoutPrev (.format r)) ∧
      Trails (f.after (.format r)) (g.after (withoutPrev (.format r))) := by
  have typed := (h.takeBack_prepare sf sg found alike alike').foldl_append within
  refine ⟨?_, typed.record⟩
  simp only [edit, withoutPrev, format]
  rw [typed.shown, typed.view]

end Trails

theorem edits_eq_edits_withoutPrev {f g : Formatter} {ts : List Translation}
    {cs : List ServiceCommand} (h : Trails f g) (sf : f.IsSettled) (sg : g.IsSettled)
    (newest : f.HoldsNewest ts) (caller : f.namesPrevious ts cs = true)
    (within : f.staysWithin cs = true) (alike : f.rebuildsAlike cs = true)
    (alike' : g.rebuildsAlike (cs.map withoutPrev) = true) :
    f.edits cs = g.edits (cs.map withoutPrev) ∧
      (f.run cs).lastAction = (g.run (cs.map withoutPrev)).lastAction := by
  induction cs generalizing f g ts with
  | nil => exact ⟨rfl, congrArg View.last (h.view none)⟩
  | cons c cs ih =>
    cases c with
    | reset =>
      have held : f.reset.HoldsNewest [] := List.nil_suffix
      have rest := ih h.reset rfl rfl held caller within alike alike'
      exact ⟨congrArg _ rest.1, rest.2⟩
    | format r =>
      obtain ⟨live, count, before, caller⟩ := of_namesPrevious caller
      simp only [staysWithin, Bool.and_eq_true] at within
      simp only [rebuildsAlike, Bool.and_eq_true, decide_eq_true_eq] at alike
      simp only [List.map_cons, withoutPrev, rebuildsAlike, Bool.and_eq_true,
        decide_eq_true_eq] at alike'
      have found := endsWith_of_map_suffix (newest.undone live count)
      obtain ⟨here, trails⟩ := h.after sf sg found within.1 alike.1 alike'.1
      have rest := ih trails (isSettled_after f _) (isSettled_after g _)
        (newest.after h.room found before) caller within.2 alike.2 alike'.2
      refine ⟨?_, rest.2⟩
      rw [List.map_cons, edits, edits, here, rest.1]

theorem rebuildsAlike_withoutPrev {f g : Formatter} {ts : List Translation}
    {cs : List ServiceCommand} (h : Trails f g) (sf : f.IsSettled) (sg : g.IsSettled)
    (newest : f.HoldsNewest ts) (resolved : f.IsResolved) (caller : f.namesPrevious ts cs = true)
    (within : f.staysWithin cs = true) (alike : f.rebuildsAlike cs = true)
    (bare : cs.all remembersNothing = true) : g.rebuildsAlike (cs.map withoutPrev) = true := by
  induction cs generalizing f g ts with
  | nil => rfl
  | cons c cs ih =>
    rw [List.all_cons, Bool.and_eq_true] at bare
    cases c with
    | reset =>
      have held : f.reset.HoldsNewest [] := List.nil_suffix
      exact ih h.reset rfl rfl held rfl caller within alike bare.2
    | format r =>
      obtain ⟨live, count, before, caller⟩ := of_namesPrevious caller
      simp only [staysWithin, Bool.and_eq_true] at within
      simp only [rebuildsAlike, Bool.and_eq_true, decide_eq_true_eq] at alike
      have nothing : ∀ t ∈ r.prev.toList ++ r.undo, t.formatting = none := by
        simpa only [remembersNothing, List.all_eq_true, Option.isNone_iff_eq_none] using bare.1
      have undone := newest.undone live count
      have found := endsWith_of_map_suffix undone
      have alike' := h.whole_prepare resolved undone fun t mem =>
        nothing t (List.mem_append_right _ mem)
      have trails := (h.after sf sg found within.1 alike.1 alike').2
      have rest := ih trails (isSettled_after f _) (isSettled_after g _)
        (newest.after h.room found before) (resolved.after h.room found nothing within.1) caller
        within.2 alike.2 bare.2
      simp only [List.map_cons, withoutPrev, rebuildsAlike, Bool.and_eq_true, decide_eq_true_eq]
      exact ⟨alike', rest⟩

def leftFits (capacity : Nat) : List Translation → List ServiceCommand → Bool
  | _, [] => true
  | ts, c :: cs => (left ts c).length ≤ capacity && leftFits capacity (left ts c) cs

theorem entries_typed_of_room {f : Formatter} {ts : List Translation} (undo new : List Translation)
    (all : f.history.entries.map Entry.translation = ts.map Translation.plain)
    (room : (ts.take (ts.length - undo.length) ++ new).length ≤ f.history.capacity) :
    (new.foldl append (f.takeBack undo.length)).history.entries.map Entry.translation =
      (ts.take (ts.length - undo.length) ++ new).map Translation.plain := by
  have count : f.history.entries.length = ts.length := by simpa using congrArg List.length all
  have kept : (f.takeBack undo.length).history.entries.map Entry.translation =
      (ts.take (ts.length - undo.length)).map Translation.plain := by
    rw [takeBack, History.popMany, List.map_take, all, count, List.map_take]
  have len : (f.takeBack undo.length).history.entries.length =
      (ts.take (ts.length - undo.length)).length := by
    simpa using congrArg List.length kept
  obtain ⟨suffix, enough⟩ := entries_foldl_append (f.takeBack undo.length) new
  have whole := suffix.eq_of_length_le (by
    rw [List.length_append, length_entriesOf, len]
    rw [List.length_append] at room
    change min _ f.history.capacity ≤ _ at enough
    omega)
  rw [whole, List.map_append, kept, map_translation_entriesOf, List.map_append]

theorem steady_of_leftFits {f : Formatter} {ts : List Translation} {cs : List ServiceCommand}
    (all : f.history.entries.map Entry.translation = ts.map Translation.plain)
    (caller : f.namesPrevious ts cs = true) (fits : leftFits f.history.capacity ts cs = true) :
    f.staysWithin cs = true ∧ f.rebuildsAlike cs = true ∧
      f.rebuildsAlike (cs.map withoutPrev) = true := by
  induction cs generalizing f ts with
  | nil => exact ⟨rfl, rfl, rfl⟩
  | cons c cs ih =>
    simp only [leftFits, Bool.and_eq_true, decide_eq_true_eq] at fits
    cases c with
    | reset => exact ih rfl caller fits.2
    | format r =>
      obtain ⟨live, count, before, caller⟩ := of_namesPrevious caller
      obtain ⟨undo, new, prev⟩ := r
      have newest : f.HoldsNewest ts := ⟨[], all⟩
      have found := endsWith_of_map_suffix (newest.undone live count)
      -- where nothing is held nothing is left, and a translation before cannot be named
      have kept : f.prepare undo prev = f := by
        rcases prepare_cases prev found with kept | ⟨t, rfl, rfl, fresh, _⟩
        · exact kept
        · rw [isEmpty_of_isFresh fresh, List.map_nil, eq_comm, List.map_eq_nil_iff] at all
          simp [all] at before
      have same : f.after (.format ⟨undo, new, none⟩) = f.after (.format ⟨undo, new, prev⟩) := by
        simp only [after, format, kept, prepare_eq found]
      have typed := entries_typed_of_room undo new all fits.1
      have later := ih (f := f.after (.format ⟨undo, new, prev⟩))
        (by simpa only [after, format, kept, left] using typed) caller
        (by rw [capacity_of_setup (setup_after f _)]; exact fits.2)
      have within : (f.takeBack undo.length).appendsWithin new = true := by
        refine appendsWithin_of_room ?_
        have len : f.history.entries.length = ts.length := by simpa using congrArg List.length all
        have room := fits.1
        simp only [left, List.length_append, List.length_take] at room
        change (f.history.entries.take _).length + _ ≤ f.history.capacity
        rw [List.length_take, len]
        exact room
      simp only [List.map_cons, withoutPrev, staysWithin, rebuildsAlike, kept, prepare_eq found,
        same, within, decide_true, Bool.true_and]
      exact later

theorem trails_new (s : FormatterSettings) (o : Orthography) : Trails (new s o) (new s o) :=
  ⟨rfl, rfl, capacity_new_pos s o, Nat.zero_le _, .inl (.refl _)⟩

/-- A caller whose translations remember nothing may name the one before or not, if whenever that
makes the history be built anew the formatter holds what it held. -/
theorem naming_previous_of_remembersNothing (s : FormatterSettings) (o : Orthography)
    (cs : List ServiceCommand) (caller : (new s o).namesPrevious [] cs = true)
    (within : (new s o).staysWithin cs = true) (alike : (new s o).rebuildsAlike cs = true)
    (bare : cs.all remembersNothing = true) :
    (new s o).edits cs = (new s o).edits (cs.map withoutPrev) := by
  have trails := trails_new s o
  have settled := isSettled_new s o
  have alike' := rebuildsAlike_withoutPrev trails settled settled List.nil_suffix rfl caller within
    alike bare
  exact (edits_eq_edits_withoutPrev trails settled settled List.nil_suffix caller within alike
    alike').1

/-- A caller all of whose translations fit into the history may name the one before or not. -/
theorem naming_previous_of_leftFits (s : FormatterSettings) (o : Orthography)
    (cs : List ServiceCommand) (caller : (new s o).namesPrevious [] cs = true)
    (fits : leftFits (max s.undoLevels 1) [] cs = true) :
    (new s o).edits cs = (new s o).edits (cs.map withoutPrev) := by
  have settled := isSettled_new s o
  have nothing : (new s o).history.entries.map Entry.translation =
      ([] : List Translation).map Translation.plain := rfl
  obtain ⟨within, alike, alike'⟩ := steady_of_leftFits nothing caller fits
  exact (edits_eq_edits_withoutPrev (trails_new s o) settled settled List.nil_suffix caller within
    alike alike').1

/-- A caller who names the translation before gets the edits that it would get without, and the same
action to go on from, if whenever a history is built anew the formatter holds what it held. -/
theorem naming_previous_changes_nothing (s : FormatterSettings) (o : Orthography)
    (cs : List ServiceCommand) (caller : (new s o).namesPrevious [] cs = true)
    (within : (new s o).staysWithin cs = true) (alike : (new s o).rebuildsAlike cs = true)
    (alike' : (new s o).rebuildsAlike (cs.map withoutPrev) = true) :
    (new s o).edits cs = (new s o).edits (cs.map withoutPrev) ∧
      ((new s o).run cs).lastAction = ((new s o).run (cs.map withoutPrev)).lastAction :=
  edits_eq_edits_withoutPrev (trails_new s o) (isSettled_new s o) (isSettled_new s o)
    List.nil_suffix caller within alike alike'

/-- A case mode that has left the history stays when the history is built anew after it, and goes
when it is taken back, which the history without the translation before no longer holds. -/
theorem naming_previous_changes_nothing_after_mode :
    let mode := Translation.ofEnglish "\x7bMODE:CAPS\x7d"
    let word := Translation.ofEnglish "a"
    let cs : List ServiceCommand :=
      [typing [mode, word], .format { undo := [word], prev := some mode },
        .format { prev := some mode }, .format { undo := [mode], new := [word] }]
    let f := new { undoLevels := 1 } .empty
    f.namesPrevious [] cs = true ∧ f.edits cs = f.edits (cs.map withoutPrev) ∧
      f.edits cs = [[.string " A".toList], [.backspaces 2], [], [.string " a".toList]] := by
  intro mode word cs f
  have caller : f.namesPrevious [] cs = true := by decide +kernel
  have within : f.staysWithin cs = true := by decide +kernel
  have alike : f.rebuildsAlike cs = true := by decide +kernel
  have alike' : f.rebuildsAlike (cs.map withoutPrev) = true := by decide +kernel
  have same := naming_previous_changes_nothing { undoLevels := 1 } .empty cs caller within alike alike'
  exact ⟨caller, same.1, by decide +kernel⟩

/-- Of two modes that have left the history only the one named is found again. -/
theorem earlier_mode_forgotten :
    let caps := Translation.ofEnglish "\x7bMODE:CAPS\x7d"
    let space := Translation.ofEnglish "\x7bMODE:SET_SPACE:_\x7d"
    let word := Translation.ofEnglish "a"
    let cs : List ServiceCommand :=
      [typing [caps, space, word], .format { undo := [word], prev := some space },
        .format { new := [word], prev := some space }]
    let f := new { undoLevels := 1 } .empty
    f.namesPrevious [] cs = true ∧ f.staysWithin cs = true ∧
      f.staysWithin (cs.map withoutPrev) = true ∧ f.edits cs ≠ f.edits (cs.map withoutPrev) ∧
      f.edits cs = [[.string "_A".toList], [.backspaces 2], [.string "_a".toList]] ∧
      f.edits (cs.map withoutPrev) =
        [[.string "_A".toList], [.backspaces 2], [.string "_A".toList]] := by
  decide +kernel

end Formatter
end Stenotype
