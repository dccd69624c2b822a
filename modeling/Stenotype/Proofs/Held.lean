import Stenotype.Proofs.Reseeding

/-!
# What a history holds

A history holds the newest of the translations that are left, each resolved after those before it.
Taking back and appending keep that. So does building the history anew, which a history that holds
what is taken back needs only if it holds nothing: the translation before is then all that it has.
-/

set_option autoImplicit false

namespace Stenotype
namespace Formatter
open ServiceCommand

theorem endsWith_of_map_suffix {h : History} {ts : List Translation}
    (newest : ts.map Translation.plain <:+ h.entries.map Entry.translation) :
    h.endsWith ts = true := by
  refine endsWith_of_suffix (List.drop_suffix (h.entries.length - ts.length) _) ?_
  have last := drop_of_suffix newest
  rwa [List.length_map, List.length_map, ← List.map_drop] at last

/-- A history that holds what is taken back is built anew only if it is asked for more than it has:
nothing is held or on screen, and a translation before is named. -/
theorem prepare_cases {f : Formatter} {undo : List Translation} (prev : Option Translation)
    (found : f.history.endsWith undo = true) :
    f.prepare undo prev = f ∨
      ∃ t, prev = some t ∧ undo = [] ∧ f.isFresh = true ∧
        f.prepare undo prev = f.reseed [] (some t) := by
  by_cases anew : f.needsReseed undo prev = true
  · have fresh : f.isFresh = true ∧ ∃ t, prev = some t := by
      simpa [needsReseed, found, Option.isSome_iff_exists] using anew
    obtain ⟨fresh, t, rfl⟩ := fresh
    have held := length_le_of_endsWith found
    rw [isEmpty_of_isFresh fresh, List.length_nil, Nat.le_zero, List.length_eq_zero_iff] at held
    subst held
    exact .inr ⟨t, rfl, rfl, fresh, by rw [prepare, if_pos anew]⟩
  · exact .inl (by rw [prepare, if_neg anew])

/-- What a history holds is the newest part of what is live. -/
def HoldsNewest (f : Formatter) (ts : List Translation) : Prop :=
  f.history.entries.map Entry.translation <:+ ts.map Translation.plain

namespace HoldsNewest
variable {f : Formatter} {ts undo : List Translation}

theorem undone (h : f.HoldsNewest ts)
    (newest : undo.map Translation.plain <:+ ts.map Translation.plain)
    (held : undo.length ≤ f.history.entries.length) :
    undo.map Translation.plain <:+ f.history.entries.map Entry.translation :=
  List.suffix_of_suffix_length_le newest h (by simpa using held)

theorem takeBack (h : f.HoldsNewest ts) {n : Nat} (held : n ≤ f.history.entries.length) :
    (f.takeBack n).HoldsNewest (ts.take (ts.length - n)) := by
  obtain ⟨front, all⟩ := h
  have len := congrArg List.length all
  rw [List.length_append, List.length_map, List.length_map] at len
  refine ⟨front, ?_⟩
  rw [List.map_take, ← all, List.take_append, List.take_of_length_le (by omega)]
  rw [Formatter.takeBack, History.popMany, List.map_take]
  congr 2
  omega

theorem foldl_append (h : f.HoldsNewest ts) (us : List Translation) :
    (us.foldl Formatter.append f).HoldsNewest (ts ++ us) := by
  have newest := (entries_foldl_append f us).1.map Entry.translation
  rw [List.map_append, map_translation_entriesOf] at newest
  obtain ⟨front, all⟩ := h
  refine newest.trans ⟨front, ?_⟩
  rw [← List.append_assoc, all, List.map_append]

theorem prepare (h : f.HoldsNewest ts) (room : 0 < f.history.capacity)
    {prev : Option Translation} (found : f.history.endsWith undo = true)
    (before : prev.map Translation.plain =
      (ts.take (ts.length - undo.length)).getLast?.map Translation.plain) :
    (f.prepare undo prev).HoldsNewest ts ∧
      undo.length ≤ (f.prepare undo prev).history.entries.length := by
  rcases prepare_cases prev found with same | ⟨t, rfl, rfl, _, anew⟩
  · rw [same]
    exact ⟨h, length_le_of_endsWith found⟩
  · -- nothing is taken back, so what is named is the last that is live
    obtain ⟨_, entries⟩ := reseed_of_room f [] (some t) room
    refine ⟨?_, Nat.zero_le _⟩
    rw [List.length_nil, Nat.sub_zero, List.take_length] at before
    obtain ⟨u, last, same⟩ := Option.map_eq_some_iff.1 before.symm
    obtain ⟨front, rfl⟩ := List.getLast?_eq_some_iff.1 last
    have all : (front ++ [u]).map Translation.plain = front.map Translation.plain ++ [t.plain] := by
      rw [List.map_append, List.map_singleton, same]
    rw [anew, HoldsNewest, entries, all]
    exact List.suffix_append _ _

theorem after (h : f.HoldsNewest ts) (room : 0 < f.history.capacity) {r : Request}
    (found : f.history.endsWith r.undo = true)
    (before : r.prev.map Translation.plain =
      (ts.take (ts.length - r.undo.length)).getLast?.map Translation.plain) :
    (f.after (.format r)).HoldsNewest (left ts (.format r)) := by
  obtain ⟨kept, count⟩ := h.prepare room found before
  exact (kept.takeBack count).foldl_append r.new

end HoldsNewest

end Formatter

namespace Base
variable (style : Style)

theorem entriesFor_map_plain (b : Base) (ts : List Translation) :
    b.entriesFor style (ts.map Translation.plain) = b.entriesFor style ts := by
  induction ts generalizing b with
  | nil => rfl
  | cons t ts ih =>
    rw [List.map_cons, entriesFor, ih]
    rfl

theorem eq_entriesFor_of_append {b : Base} {ts : List Translation} {gone es : List Entry}
    (row : b.entriesFor style ts = gone ++ es) :
    es = (gone.foldl absorb b).entriesFor style (es.map Entry.translation) := by
  induction gone generalizing b ts with
  | nil =>
    rw [List.nil_append] at row
    rw [← row, map_translation_entriesFor, List.foldl_nil, entriesFor_map_plain]
  | cons e gone ih =>
    cases ts with
    | nil => cases row
    | cons t ts =>
      rw [entriesFor, List.cons_append] at row
      obtain ⟨rfl, rest⟩ := List.cons.inj row
      exact ih rest

end Base

namespace Formatter
open ServiceCommand

/-- The history holds what its translations are resolved to after the base. -/
def IsResolved (f : Formatter) : Prop :=
  f.history.entries = f.base.entriesFor f.style (f.history.entries.map Entry.translation)

theorem appendsWithin_of_room {f : Formatter} {ts : List Translation}
    (room : f.history.entries.length + ts.length ≤ f.history.capacity) :
    f.appendsWithin ts = true := by
  induction ts generalizing f with
  | nil => rfl
  | cons t ts ih =>
    rw [List.length_cons] at room
    have more : f.history.entries.length < f.history.capacity := by omega
    have here : f.hasRoomFor ⟨t.plain, f.resolveNext t⟩ = true := by
      rcases f.history.push_cases ⟨t.plain, f.resolveNext t⟩ with ⟨_, kept⟩ | ⟨_, _, _, full, _⟩
      · rw [hasRoomFor, kept]
        rfl
      · exact absurd full (Nat.not_le.2 more)
    rw [appendsWithin, here, Bool.true_and]
    refine ih ?_
    rw [append_of_room t more]
    simp only [List.length_append, List.length_singleton]
    omega

theorem reseed_sameWindow_append (f : Formatter) {undo : List Translation}
    {prev : Option Translation}
    (bare : ∀ t ∈ prev.toList ++ undo, t.formatting = none) :
    SameWindow (f.reseed undo prev) ((prev.toList ++ undo).foldl append f.reset) := by
  have typed : (prev.toList ++ undo).foldl seed f.reset =
      (prev.toList ++ undo).foldl append f.reset := by
    refine List.foldl_ext _ _ _ fun g t mem => ?_
    rw [seed, bare t mem]
    rfl
  rw [← typed]
  exact reseed_sameWindow f undo prev

theorem whole_reseed_of_room {f : Formatter} {undo : List Translation} {prev : Option Translation}
    (bare : ∀ t ∈ prev.toList ++ undo, t.formatting = none)
    (room : (prev.toList ++ undo).length ≤ f.history.capacity) :
    (f.reseed undo prev).whole =
      (prev.toList ++ undo).foldl (Base.add f.style) (Base.ofStart (startAction f.settings)) := by
  have window := reseed_sameWindow_append f bare
  have empty : f.reset.whole = Base.ofStart (startAction f.settings) := rfl
  obtain ⟨gone, stacked⟩ := foldl_append_stacks (appendsWithin_of_room (room_reset room))
  rw [window.whole, stacked.whole, Base.foldl_absorb_entriesFor, empty]
  rfl

namespace IsResolved
variable {f : Formatter}

theorem whole (h : f.IsResolved) :
    f.whole = (f.history.entries.map Entry.translation).foldl (Base.add f.style) f.base := by
  rw [← Base.foldl_absorb_entriesFor, ← h]
  rfl

theorem foldl_append (h : f.IsResolved) {us : List Translation}
    (within : f.appendsWithin us = true) : (us.foldl Formatter.append f).IsResolved := by
  obtain ⟨gone, stacked⟩ := foldl_append_stacks within
  have row := stacked.entries
  have held : f.whole = (f.base.entriesFor f.style
      (f.history.entries.map Entry.translation)).foldl Base.absorb f.base := by
    rw [← h]
    rfl
  rw [h, held, ← Base.entriesFor_append] at row
  rw [IsResolved, stacked.style, stacked.base]
  exact Base.eq_entriesFor_of_append f.style row

theorem takeBack (h : f.IsResolved) (n : Nat) : (f.takeBack n).IsResolved := by
  have cut := congrArg (List.take (f.history.entries.length - n)) h
  rw [Base.take_entriesFor, ← List.map_take] at cut
  exact cut

theorem prepare (h : f.IsResolved) (room : 0 < f.history.capacity) {undo : List Translation}
    {prev : Option Translation} (found : f.history.endsWith undo = true)
    (bare : ∀ t ∈ prev.toList ++ undo, t.formatting = none) : (f.prepare undo prev).IsResolved := by
  rcases prepare_cases prev found with same | ⟨t, rfl, rfl, _, anew⟩
  · rw [same]
    exact h
  · have window := reseed_sameWindow_append f bare
    have empty : f.reset.IsResolved := rfl
    have one : f.reset.appendsWithin [t] = true := appendsWithin_of_room (room_reset room)
    rw [anew, IsResolved, window.history, window.base, window.style]
    exact empty.foldl_append one

theorem after (h : f.IsResolved) (room : 0 < f.history.capacity) {r : Request}
    (found : f.history.endsWith r.undo = true)
    (bare : ∀ t ∈ r.prev.toList ++ r.undo, t.formatting = none)
    (within : ((f.prepare r.undo r.prev).takeBack r.undo.length).appendsWithin r.new = true) :
    (f.after (.format r)).IsResolved :=
  ((h.prepare room found bare).takeBack r.undo.length).foldl_append within

end IsResolved

end Formatter
end Stenotype
