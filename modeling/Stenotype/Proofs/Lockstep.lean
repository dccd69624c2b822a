import Stenotype.Proofs.Predecessor
import Stenotype.Proofs.Transparent

/-!
# Two formatters in step

Two formatters that are given the same translations are compared by a relation between what they
show. If it makes their texts equally long, their bases reach the limit together and lose equally
much, so it is enough that every translation keeps it on whatever is left of the texts. A run with
one translation more in front is brought into step by putting that translation into the base.
-/

set_option autoImplicit false

namespace Stenotype

namespace View

def dropFront (v : View) (n : Nat) : View := { v with screen := v.screen.dropFront n }

end View

namespace Base

theorem extend_resolved (v : View) (as : List Action) :
    extend v (as.map Slot.resolved) = ⟨v.applyAll as, none⟩ := by
  induction as generalizing v with
  | nil => rfl
  | cons a as ih =>
    rw [List.map_cons, extend_resolved_cons, ih]
    rfl

theorem absorb_of_resolved {b : Base} (decided : b.tail = none) {e : Entry} {as : List Action}
    (slots : e.slots = as.map Slot.resolved) : b.absorb e = ⟨b.view.applyAll as, none⟩ := by
  rw [absorb, settle_of_decided decided, slots, extend_resolved]

end Base

theorem Formatter.style_of_setup {f g : Formatter} (same : f.setup = g.setup) : f.style = g.style := by
  simp only [setup, Prod.mk.injEq] at same
  rw [style, style, same.1, same.2.1]

/-- A relation between views of equal length that stays when a base is cut back. -/
structure Pairing where
  holds : View → View → Prop
  length : ∀ {v w : View}, holds v w → w.screen.text.length = v.screen.text.length
  dropFront : ∀ {v w : View} {n : Nat}, holds v w → n + Base.keep ≤ v.screen.text.length →
    holds (v.dropFront n) (w.dropFront n)

namespace Pairing
variable {P : Pairing}

/-- What follows `a` on the one side and `a'` on the other keeps the relation, however much the
texts before it have lost. -/
def Keeps (P : Pairing) (a a' : Action) (as bs : List Action) : Prop :=
  ∀ v w, P.holds v w → v.last = a → w.last = a' → P.holds (v.applyAll as) (w.applyAll bs)

/-- Resolved after views in relation, the translation gives actions that keep it. -/
def Resolves (P : Pairing) (style : Style) (t : Translation) : Prop :=
  ∀ v w, P.holds v w → ∃ as bs,
    style.resolve v.last v.screen.text t = as.map Slot.resolved ∧
      style.resolve w.last w.screen.text t = bs.map Slot.resolved ∧ P.Keeps v.last w.last as bs

structure Bases (P : Pairing) (b b' : Base) : Prop where
  view : P.holds b.view b'.view
  tail : b.tail = none
  tail' : b'.tail = none

inductive Entries (P : Pairing) : Action → Action → List Entry → List Entry → Prop
  | nil (a a' : Action) : Entries P a a' [] []
  | cons {a a' : Action} {e e' : Entry} {es es' : List Entry} {as bs : List Action}
      (slots : e.slots = as.map Slot.resolved) (slots' : e'.slots = bs.map Slot.resolved)
      (keeps : P.Keeps a a' as bs) (rest : Entries P (as.getLastD a) (bs.getLastD a') es es') :
      Entries P a a' (e :: es) (e' :: es')

namespace Bases
variable {b b' : Base}

theorem absorb (h : P.Bases b b') {e e' : Entry} {as bs : List Action}
    (slots : e.slots = as.map Slot.resolved) (slots' : e'.slots = bs.map Slot.resolved)
    (keeps : P.Keeps b.view.last b'.view.last as bs) : P.Bases (b.absorb e) (b'.absorb e') := by
  rw [Base.absorb_of_resolved h.tail slots, Base.absorb_of_resolved h.tail' slots']
  exact ⟨keeps _ _ h.view rfl rfl, rfl, rfl⟩

theorem cut (h : P.Bases b b') : P.Bases (b.dropFront b.surplus) (b'.dropFront b'.surplus) := by
  have same : b'.surplus = b.surplus := by
    rw [Base.surplus, P.length h.view, Base.surplus]
  refine ⟨?_, h.tail, h.tail'⟩
  rw [same]
  by_cases long : Base.limit < b.view.screen.text.length
  · refine P.dropFront h.view ?_
    rw [Base.surplus, if_pos long]
    simp only [Base.limit, Base.keep] at *
    omega
  · rw [Base.surplus, if_neg long]
    simpa [Base.dropFront] using h.view

end Bases

namespace Entries
variable {a a' : Action} {es es' : List Entry}

theorem length (h : P.Entries a a' es es') : es'.length = es.length := by
  induction h with
  | nil => rfl
  | cons _ _ _ _ ih => rw [List.length_cons, List.length_cons, ih]

theorem foldl_absorb (h : P.Entries a a' es es') {b b' : Base} (bases : P.Bases b b')
    (last : b.view.last = a) (last' : b'.view.last = a') :
    P.Bases (es.foldl Base.absorb b) (es'.foldl Base.absorb b') := by
  induction h generalizing b b' with
  | nil => exact bases
  | cons slots slots' keeps _ ih =>
    subst last last'
    refine ih (bases.absorb slots slots' keeps) ?_ ?_
    · rw [Base.absorb_of_resolved bases.tail slots, View.last_applyAll_eq]
    · rw [Base.absorb_of_resolved bases.tail' slots', View.last_applyAll_eq]

theorem concat (h : P.Entries a a' es es') {b b' : Base} (bases : P.Bases b b')
    (last : b.view.last = a) (last' : b'.view.last = a') {e e' : Entry} {as bs : List Action}
    (slots : e.slots = as.map Slot.resolved) (slots' : e'.slots = bs.map Slot.resolved)
    (keeps : P.Keeps (es.foldl Base.absorb b).view.last (es'.foldl Base.absorb b').view.last as bs) :
    P.Entries a a' (es ++ [e]) (es' ++ [e']) := by
  induction h generalizing b b' with
  | nil =>
    subst last last'
    exact .cons slots slots' keeps (.nil _ _)
  | cons slots₀ slots₀' keeps₀ _ ih =>
    subst last last'
    refine .cons slots₀ slots₀' keeps₀ (ih (bases.absorb slots₀ slots₀' keeps₀) ?_ ?_ keeps)
    · rw [Base.absorb_of_resolved bases.tail slots₀, View.last_applyAll_eq]
    · rw [Base.absorb_of_resolved bases.tail' slots₀', View.last_applyAll_eq]

end Entries

/-- Two formatters of one style, in relation entry by entry. -/
structure Formatters (P : Pairing) (f g : Formatter) : Prop where
  style : g.style = f.style
  capacity : g.history.capacity = f.history.capacity
  base : P.Bases f.base g.base
  entries : P.Entries f.base.view.last g.base.view.last f.history.entries g.history.entries

namespace Formatters
variable {f g : Formatter}

theorem whole (h : P.Formatters f g) : P.Bases f.whole g.whole :=
  h.entries.foldl_absorb h.base rfl rfl

theorem view (h : P.Formatters f g) (next : Option Text) : P.holds (f.view next) (g.view next) := by
  rw [Formatter.view_eq, Formatter.view_eq, Base.settle_of_decided h.whole.tail,
    Base.settle_of_decided h.whole.tail']
  exact h.whole.view

theorem append_of_keeps (h : P.Formatters f g) {t : Translation} {as bs : List Action}
    (slots : f.resolveNext t = as.map Slot.resolved)
    (slots' : g.resolveNext t = bs.map Slot.resolved)
    (keeps : P.Keeps (f.view (some t.firstLiteral)).last (g.view (some t.firstLiteral)).last as bs) :
    P.Formatters (f.append t) (g.append t) := by
  rw [Formatter.view_eq, Formatter.view_eq, Base.settle_of_decided h.whole.tail,
    Base.settle_of_decided h.whole.tail'] at keeps
  let e : Entry := ⟨t.plain, f.resolveNext t⟩
  let e' : Entry := ⟨t.plain, g.resolveNext t⟩
  have all : P.Entries f.base.view.last g.base.view.last (f.history.entries ++ [e])
      (g.history.entries ++ [e']) := h.entries.concat h.base rfl rfl slots slots' keeps
  have length := h.entries.length
  have capacity := h.capacity
  rcases f.history.push_cases e with ⟨room, kept⟩ | ⟨first, rest, split, full, left⟩
  · rcases g.history.push_cases e' with ⟨_, kept'⟩ | ⟨_, _, _, full', _⟩
    · simp only [Formatter.append, Formatter.push, kept, kept', e, e']
      exact ⟨h.style, h.capacity, h.base, all⟩
    · omega
  · rcases g.history.push_cases e' with ⟨room', _⟩ | ⟨first', rest', split', _, left'⟩
    · omega
    · rw [split, split'] at all
      cases all with
      | cons slots slots' keeps rest =>
        simp only [Formatter.append, Formatter.push, left, left', e, e',
          Formatter.freeze_eq_dropFront]
        refine ⟨h.style, h.capacity, (h.base.absorb slots slots' keeps).cut, ?_⟩
        simp only [Base.dropFront, Base.absorb_of_resolved h.base.tail slots,
          Base.absorb_of_resolved h.base.tail' slots', View.last_applyAll_eq]
        exact rest

theorem append (h : P.Formatters f g) {t : Translation} (resolves : P.Resolves f.style t) :
    P.Formatters (f.append t) (g.append t) := by
  obtain ⟨as, bs, slots, slots', keeps⟩ := resolves _ _ (h.view (some t.firstLiteral))
  refine h.append_of_keeps slots ?_ keeps
  rw [Formatter.resolveNext, h.style, slots']

theorem foldl_append (h : P.Formatters f g) {ts : List Translation}
    (resolves : ∀ t ∈ ts, P.Resolves f.style t) :
    P.Formatters (ts.foldl Formatter.append f) (ts.foldl Formatter.append g) := by
  induction ts generalizing f g with
  | nil => exact h
  | cons t ts ih =>
    have style : (f.append t).style = f.style := Formatter.style_of_setup (Formatter.setup_push f t _)
    refine ih (h.append (resolves t (List.mem_cons_self ..))) fun u mem => ?_
    rw [style]
    exact resolves u (List.mem_cons_of_mem t mem)

end Formatters
end Pairing

namespace Formatter
open ServiceCommand

def opened (s : FormatterSettings) (o : Orthography) (t : Translation) : Formatter :=
  { new s o with base := (Base.ofStart (startAction s)).add ⟨s.spacePlacement, o⟩ t }

/-- While the further entry of `f` is in its history it counts as in the base of `g`, and once it has
left the two are the same. -/
theorem view_foldl_append_of_ahead {f g : Formatter} {e : Entry} (h : Ahead f g e)
    (same : f.setup = g.setup) (fits : f.history.entries.length ≤ f.history.capacity)
    (short : g.base.view.screen.text.length ≤ Base.limit) (ts : List Translation)
    (next : Option Text) : (ts.foldl append f).view next = (ts.foldl append g).view next := by
  induction ts generalizing f g with
  | nil => rw [List.foldl_nil, List.foldl_nil, view_eq, view_eq, h.whole]
  | cons t ts ih =>
    have slots : f.resolveNext t = g.resolveNext t := by
      rw [resolveNext_eq, resolveNext_eq, h.whole, style_of_setup same]
    -- the first to leave is the further entry, which the base of `g` has without being too long
    have within : f.hasRoomFor ⟨t.plain, f.resolveNext t⟩ = true := by
      rcases f.history.push_cases ⟨t.plain, f.resolveNext t⟩ with
        ⟨_, kept⟩ | ⟨first, rest, all, _, left⟩
      · simp [hasRoomFor, kept]
      · rw [h.entries] at all
        obtain ⟨rfl, _⟩ := List.cons.inj all
        rw [h.base] at short
        simpa [hasRoomFor, left] using short
    obtain ⟨ahead | ahead, _⟩ := h.append same fits slots within
    · exact (ahead.foldl_append ts).view next
    · refine ih ahead ?_ ?_ ?_
      · rw [append, setup_push, same, append, setup_push]
      · have capacity := capacity_of_setup (setup_push f t (f.resolveNext t))
        rw [append, capacity]
        exact length_entries_push_le t _ fits
      · have settings : (f.append t).settings = f.settings := congrArg Prod.fst (setup_push f t _)
        rw [ahead.base, ahead.start, settings, ← h.start, ← h.base]
        exact short

theorem view_foldl_append_opened (s : FormatterSettings) (o : Orthography) (t : Translation)
    (short : (opened s o t).base.view.screen.text.length ≤ Base.limit) (ts : List Translation)
    (next : Option Text) :
    ((t :: ts).foldl append (new s o)).view next = (ts.foldl append (opened s o t)).view next := by
  have room : (new s o).history.entries.length < (new s o).history.capacity := capacity_new_pos s o
  rw [List.foldl_cons, append_of_room t room]
  have ahead : Ahead
      { new s o with history :=
        { (new s o).history with entries := [⟨t.plain, (new s o).resolveNext t⟩] } }
      (opened s o t) ⟨t.plain, (new s o).resolveNext t⟩ := ⟨rfl, rfl, rfl⟩
  exact view_foldl_append_of_ahead ahead rfl room short ts next

theorem context_foldl_append {f : Formatter} (h : f.context = Screen.blank) (ts : List Translation) :
    (ts.foldl append f).context = Screen.blank := by
  induction ts generalizing f with
  | nil => exact h
  | cons t ts ih =>
    refine ih ?_
    rcases f.history.push_cases ⟨t.plain, f.resolveNext t⟩ with ⟨_, kept⟩ | ⟨_, _, _, _, left⟩
    · simp only [append, push, kept, h]
    · simp only [append, push, left, freeze_eq_dropFront, h]
      simp [Screen.dropFront, Screen.blank]

theorem context_run_typing {f : Formatter} (h : f.context = Screen.blank)
    (batches : List (List Translation)) : (f.run (batches.map typing)).context = Screen.blank := by
  induction batches generalizing f with
  | nil => exact h
  | cons ts rest ih =>
    refine ih ?_
    simp only [after, typing, format_nil, prepare_eq (endsWith_nil f.history)]
    exact context_foldl_append h ts

theorem rendered_run_typing (s : FormatterSettings) (o : Orthography)
    (batches : List (List Translation)) :
    ((new s o).run (batches.map typing)).rendered =
      ((batches.flatten.foldl append (new s o)).view none).screen := by
  rw [rendered_eq_shown (context_run_typing rfl batches), isSettled_run s o,
    (run_typing_sameWindow (new s o) batches).view]

end Formatter

namespace Pairing
variable (P : Pairing) (s : FormatterSettings) (o : Orthography) {first : Translation}
  {ts : List Translation} {batches batches' : List (List Translation)}

theorem holds_run_of_formatters (plain : batches.flatten = ts) (opened : batches'.flatten = first :: ts)
    (short : (Formatter.opened s o first).base.view.screen.text.length ≤ Base.limit)
    (all : P.Formatters (ts.foldl Formatter.append (Formatter.new s o))
      (ts.foldl Formatter.append (Formatter.opened s o first))) :
    let f := (Formatter.new s o).run (batches.map ServiceCommand.typing)
    let g := (Formatter.new s o).run (batches'.map ServiceCommand.typing)
    ∃ v w, P.holds v w ∧ f.rendered = v.screen ∧ f.lastAction = v.last ∧ g.rendered = w.screen ∧
      g.lastAction = w.last := by
  intro f g
  have views := all.view none
  have windowF := Formatter.run_typing_sameWindow (Formatter.new s o) batches
  have windowG := Formatter.run_typing_sameWindow (Formatter.new s o) batches'
  rw [plain] at windowF
  rw [opened] at windowG
  rw [← Formatter.view_foldl_append_opened s o first short] at views
  refine ⟨_, _, views, ?_, congrArg View.last (windowF.view none), ?_,
    congrArg View.last (windowG.view none)⟩
  · rw [Formatter.rendered_run_typing, plain]
  · rw [Formatter.rendered_run_typing, opened]

/-- A row of translations, and the same row after another translation: what is shown is in relation,
however both are batched and however much the bases have lost. -/
theorem holds_run_typing (plain : batches.flatten = ts) (opened : batches'.flatten = first :: ts)
    (start : P.Bases (Base.ofStart (Formatter.startAction s)) (Formatter.opened s o first).base)
    (resolves : ∀ t ∈ ts, P.Resolves ⟨s.spacePlacement, o⟩ t) :
    let f := (Formatter.new s o).run (batches.map ServiceCommand.typing)
    let g := (Formatter.new s o).run (batches'.map ServiceCommand.typing)
    ∃ v w, P.holds v w ∧ f.rendered = v.screen ∧ f.lastAction = v.last ∧ g.rendered = w.screen ∧
      g.lastAction = w.last := by
  have begun : P.Formatters (Formatter.new s o) (Formatter.opened s o first) :=
    ⟨rfl, rfl, start, .nil _ _⟩
  have short : (Formatter.opened s o first).base.view.screen.text.length ≤ Base.limit := by
    rw [P.length start.view]
    exact Nat.zero_le _
  exact P.holds_run_of_formatters s o plain opened short (begun.foldl_append resolves)

end Pairing
end Stenotype
