import Stenotype.Formatter

/-!
# Base and history as one window

What a formatter shows depends on its base and its history together, not on where one ends and the
other begins: an entry that moves from the history into the base changes nothing, as long as the
base is not cut back. So a formatter is known by the base that it would have if its whole history
had left, and translations do to that base what they do to the formatter.
-/

set_option autoImplicit false

namespace Stenotype

namespace View

theorem applyAll_append (v : View) (as bs : List Action) :
    v.applyAll (as ++ bs) = (v.applyAll as).applyAll bs :=
  List.foldl_append

theorem last_applyAll_eq (v : View) (as : List Action) :
    (v.applyAll as).last = as.getLastD v.last := by
  induction as generalizing v with
  | nil => rfl
  | cons a as ih =>
    change ((v.apply a).applyAll as).last = _
    rw [ih]
    cases as <;> rfl

end View

namespace Base

/-- A lookahead that stays open at the end of a base is decided as at the end of a history. -/
theorem settle_extend (v : View) (slots : List Slot) (next : Option Text) :
    (extend v slots).settle next = v.applyAll (Entry.actionsOf next slots) := by
  fun_induction extend v slots with
  | case1 v => rfl
  | case2 v l => rfl
  | case3 v s ss alone ih =>
    rw [ih]
    -- only a last slot that is pending stays open, and this one is not
    cases ss with
    | nil =>
      cases s with
      | resolved a => rfl
      | pending l => exact absurd rfl (alone l rfl)
    | cons s' ss => rfl

theorem settle_absorb (b : Base) (e : Entry) (next : Option Text) :
    (b.absorb e).settle next = (b.settle (some e.firstLiteral)).applyAll (e.actions next) :=
  settle_extend _ _ _

theorem settle_foldl_absorb (b : Base) (es : List Entry) (next : Option Text) :
    (es.foldl absorb b).settle next =
      (b.settle (History.following next es)).applyAll (History.actionsOf next es) := by
  induction es generalizing b with
  | nil => rfl
  | cons e es ih =>
    rw [List.foldl_cons, ih, settle_absorb, ← View.applyAll_append]
    rfl

theorem last_settle_dropFront (b : Base) (n : Nat) (es : List Entry) (next : Option Text) :
    ((es.foldl absorb (b.dropFront n)).settle next).last =
      ((es.foldl absorb b).settle next).last := by
  have same (next : Option Text) : ((b.dropFront n).settle next).last = (b.settle next).last := by
    obtain ⟨v, tail⟩ := b
    cases tail <;> rfl
  rw [settle_foldl_absorb, settle_foldl_absorb, View.last_applyAll_eq, View.last_applyAll_eq, same]

theorem surplus_eq_zero {b : Base} (h : b.view.screen.text.length ≤ limit) : b.surplus = 0 :=
  if_neg (Nat.not_lt.2 h)

def entryFor (style : Style) (b : Base) (t : Translation) : Entry :=
  let v := b.settle (some t.firstLiteral)
  ⟨t.plain, style.resolve v.last v.screen.text t⟩

/-- The entries of translations that come after a base, one after the other. -/
def entriesFor (style : Style) : Base → List Translation → List Entry
  | _, [] => []
  | b, t :: ts => b.entryFor style t :: entriesFor style (b.absorb (b.entryFor style t)) ts

theorem entriesFor_append (style : Style) (b : Base) (ts us : List Translation) :
    b.entriesFor style (ts ++ us) =
      b.entriesFor style ts ++ entriesFor style ((b.entriesFor style ts).foldl absorb b) us := by
  induction ts generalizing b with
  | nil => rfl
  | cons t ts ih =>
    rw [List.cons_append, entriesFor, ih]
    rfl

theorem map_translation_entriesFor (style : Style) (b : Base) (ts : List Translation) :
    (b.entriesFor style ts).map Entry.translation = ts.map Translation.plain := by
  induction ts generalizing b with
  | nil => rfl
  | cons t ts ih =>
    rw [entriesFor, List.map_cons, ih]
    rfl

theorem length_entriesFor (style : Style) (b : Base) (ts : List Translation) :
    (b.entriesFor style ts).length = ts.length := by
  simpa using congrArg List.length (map_translation_entriesFor style b ts)

theorem take_entriesFor (style : Style) (b : Base) (ts : List Translation) (n : Nat) :
    (b.entriesFor style ts).take n = b.entriesFor style (ts.take n) := by
  induction ts generalizing b n with
  | nil => simp [entriesFor]
  | cons t ts ih =>
    cases n with
    | zero => rfl
    | succ n => rw [List.take_succ_cons, entriesFor, entriesFor, List.take_succ_cons, ih]

def add (style : Style) (b : Base) (t : Translation) : Base := b.absorb (b.entryFor style t)

theorem foldl_absorb_entriesFor (style : Style) (b : Base) (ts : List Translation) :
    (b.entriesFor style ts).foldl absorb b = ts.foldl (add style) b := by
  induction ts generalizing b with
  | nil => rfl
  | cons t ts ih => exact ih (b.add style t)

end Base

namespace History

theorem push_cases (h : History) (e : Entry) :
    (h.entries.length < h.capacity ∧ h.push e = (none, { h with entries := h.entries ++ [e] })) ∨
      ∃ first rest, h.entries ++ [e] = first :: rest ∧ h.capacity ≤ h.entries.length ∧
        h.push e = (some first, { h with entries := rest }) := by
  cases all : h.entries ++ [e] with
  | nil => simp at all
  | cons first rest =>
    have len := congrArg List.length all
    simp only [List.length_append, List.length_cons, List.length_nil] at len
    by_cases full : h.capacity < rest.length + 1
    · refine .inr ⟨first, rest, rfl, by omega, ?_⟩
      simp [push, all, full]
    · refine .inl ⟨by omega, ?_⟩
      simp [push, all, full]

theorem append_popMany (gone : List Entry) (h : History) {n : Nat} (le : n ≤ h.entries.length) :
    gone ++ (h.popMany n).entries =
      (gone ++ h.entries).take ((gone ++ h.entries).length - n) := by
  have front : gone.length ≤ (gone ++ h.entries).length - n := by
    rw [List.length_append]
    omega
  have held : (gone ++ h.entries).length - n - gone.length = h.entries.length - n := by
    rw [List.length_append]
    omega
  rw [List.take_append, List.take_of_length_le front, held, popMany]

end History

namespace Formatter

/-- The base that would hold everything, had the whole history left. -/
def whole (f : Formatter) : Base := f.history.entries.foldl Base.absorb f.base

theorem view_eq (f : Formatter) (next : Option Text) : f.view next = f.whole.settle next :=
  (Base.settle_foldl_absorb _ _ _).symm

theorem resolveNext_eq (f : Formatter) (t : Translation) :
    f.resolveNext t = (f.whole.entryFor f.style t).slots := by
  simp only [resolveNext, view_eq, Base.entryFor]

/-- `g` is `f` with `es` on top, and the entries that had to leave, `gone`, have moved into the
base. -/
structure Stacks (f g : Formatter) (es gone : List Entry) : Prop where
  settings : g.settings = f.settings
  orthography : g.orthography = f.orthography
  shown : g.shown = f.shown
  context : g.context = f.context
  capacity : g.history.capacity = f.history.capacity
  entries : f.history.entries ++ es = gone ++ g.history.entries
  base : g.base = gone.foldl Base.absorb f.base
  gone_le : gone.length ≤ f.history.entries.length + es.length - f.history.capacity

namespace Stacks
variable {f g h : Formatter} {es es' gone gone' : List Entry}

theorem refl (f : Formatter) : Stacks f f [] [] :=
  ⟨rfl, rfl, rfl, rfl, rfl, List.append_nil _, rfl, Nat.zero_le _⟩

theorem length_eq (hfg : Stacks f g es gone) :
    f.history.entries.length + es.length = gone.length + g.history.entries.length := by
  have all := congrArg List.length hfg.entries
  rwa [List.length_append, List.length_append] at all

theorem trans (hfg : Stacks f g es gone) (hgh : Stacks g h es' gone') :
    Stacks f h (es ++ es') (gone ++ gone') where
  settings := hgh.settings.trans hfg.settings
  orthography := hgh.orthography.trans hfg.orthography
  shown := hgh.shown.trans hfg.shown
  context := hgh.context.trans hfg.context
  capacity := hgh.capacity.trans hfg.capacity
  entries := by
    rw [← List.append_assoc, hfg.entries, List.append_assoc, hgh.entries, List.append_assoc]
  base := by rw [hgh.base, hfg.base, List.foldl_append]
  gone_le := by
    have len := hfg.length_eq
    have first := hfg.gone_le
    have second := hgh.gone_le
    rw [hfg.capacity] at second
    simp only [List.length_append]
    omega

theorem whole (hfg : Stacks f g es gone) : g.whole = es.foldl Base.absorb f.whole := by
  unfold Formatter.whole
  rw [hfg.base, ← List.foldl_append, ← hfg.entries, List.foldl_append]

theorem style (hfg : Stacks f g es gone) : g.style = f.style := by
  rw [Formatter.style, Formatter.style, hfg.settings, hfg.orthography]

theorem of_isEmpty (hfg : Stacks f g es gone) (room : 0 < f.history.capacity)
    (empty : g.history.entries = []) : f.history.entries = [] ∧ g.base = f.base := by
  have len := hfg.length_eq
  have le := hfg.gone_le
  rw [empty, List.length_nil] at len
  have no_entries : f.history.entries = [] := List.eq_nil_of_length_eq_zero (by omega)
  have no_gone : gone = [] := List.eq_nil_of_length_eq_zero (by omega)
  exact ⟨no_entries, by rw [hfg.base, no_gone, List.foldl_nil]⟩

theorem length_le (hfg : Stacks f g es gone) (fits : es.length ≤ f.history.capacity) :
    es.length ≤ g.history.entries.length := by
  have len := hfg.length_eq
  have le := hfg.gone_le
  omega

theorem entries_takeBack (hfg : Stacks f g es gone) (fits : es.length ≤ f.history.capacity) :
    f.history.entries = gone ++ (g.takeBack es.length).history.entries := by
  have back := History.append_popMany gone g.history (hfg.length_le fits)
  rw [← hfg.entries, List.length_append, Nat.add_sub_cancel, List.take_left] at back
  exact back.symm

theorem whole_takeBack (hfg : Stacks f g es gone) (fits : es.length ≤ f.history.capacity) :
    (g.takeBack es.length).whole = f.whole := by
  have old := hfg.entries_takeBack fits
  unfold Formatter.whole
  rw [old, List.foldl_append, ← hfg.base]
  rfl

theorem suffix (hfg : Stacks f g es gone) (fits : es.length ≤ f.history.capacity) :
    es <:+ g.history.entries := by
  have old := hfg.entries_takeBack fits
  have all := hfg.entries
  rw [old, List.append_assoc, List.append_cancel_left_eq] at all
  exact ⟨_, all⟩

end Stacks

/-- The base stays within its limit when an entry is added. -/
def hasRoomFor (f : Formatter) (e : Entry) : Bool :=
  (f.history.push e).1.all fun left => (f.base.absorb left).view.screen.text.length ≤ Base.limit

/-- The base stays within its limit while translations are appended. -/
def appendsWithin : Formatter → List Translation → Bool
  | _, [] => true
  | f, t :: ts => f.hasRoomFor ⟨t.plain, f.resolveNext t⟩ && (f.append t).appendsWithin ts

theorem freeze_eq_dropFront (f : Formatter) (e : Entry) :
    f.freeze e =
      let n := (f.base.absorb e).surplus
      { f with
        base := (f.base.absorb e).dropFront n, shown := f.shown.dropFront n
        context := f.context.dropFront n } := by
  by_cases h : (f.base.absorb e).surplus = 0
  · simp [freeze, h, Base.dropFront]
  · simp [freeze, h]

theorem freeze_eq {f : Formatter} {e : Entry}
    (room : (f.base.absorb e).view.screen.text.length ≤ Base.limit) :
    f.freeze e = { f with base := f.base.absorb e } := by
  rw [freeze, Base.surplus_eq_zero room, if_pos rfl]

theorem push_stacks {f : Formatter} {t : Translation} {slots : List Slot}
    (room : f.hasRoomFor ⟨t.plain, slots⟩ = true) :
    ∃ gone, Stacks f (f.push t slots) [⟨t.plain, slots⟩] gone := by
  rcases f.history.push_cases ⟨t.plain, slots⟩ with ⟨_, kept⟩ | ⟨first, rest, all, full, left⟩
  · refine ⟨[], ?_⟩
    simp only [push, kept]
    exact ⟨rfl, rfl, rfl, rfl, rfl, rfl, rfl, Nat.zero_le _⟩
  · refine ⟨[first], ?_⟩
    have fits : (f.base.absorb first).view.screen.text.length ≤ Base.limit := by
      simpa [hasRoomFor, left] using room
    simp only [push, left]
    rw [freeze_eq (by exact fits)]
    exact ⟨rfl, rfl, rfl, rfl, rfl, all, rfl, by simp only [List.length_singleton]; omega⟩

/-- Appended translations stack the entries that they have after all that the formatter holds. -/
theorem foldl_append_stacks {f : Formatter} {ts : List Translation}
    (room : f.appendsWithin ts = true) :
    ∃ gone, Stacks f (ts.foldl append f) (f.whole.entriesFor f.style ts) gone := by
  induction ts generalizing f with
  | nil => exact ⟨[], .refl f⟩
  | cons t ts ih =>
    simp only [appendsWithin, Bool.and_eq_true] at room
    obtain ⟨here, later⟩ := room
    obtain ⟨gone, first⟩ := push_stacks here
    obtain ⟨gone', rest⟩ := ih later
    have entry : (⟨t.plain, f.resolveNext t⟩ : Entry) = f.whole.entryFor f.style t := by
      rw [resolveNext_eq]
      rfl
    change Stacks f (f.append t) _ gone at first
    rw [entry] at first
    rw [first.whole, first.style] at rest
    exact ⟨gone ++ gone', first.trans rest⟩

end Formatter
end Stenotype
