import Stenotype.Proofs.PathIndependence

/-!
# Splitting a translation

A translation is typed as two others are, one after the other, that share its atoms between them.
Inside a translation a lookahead is decided by the next atom, between translations it stays open
until the next one shows its first literal: both decide it alike, and every other atom finds the
same action and the same output before it.
-/

set_option autoImplicit false

namespace Stenotype

namespace Base

theorem extend_resolved_cons (v : View) (a : Action) (ss : List Slot) :
    extend v (.resolved a :: ss) = extend (v.apply a) ss := by
  cases ss <;> rfl

/-- A row of atoms may be cut anywhere: the first part, decided by the literal of the atom after it,
leaves the second what the whole row would have. -/
theorem extend_resolveAtoms_append (style : Style) (v : View) {as : List Text} (ink : as ≠ [])
    (b : Text) (bs : List Text) :
    let w := (extend v (style.resolveAtoms v.last v.screen.text as)).settle (some (Atom.literal b))
    extend v (style.resolveAtoms v.last v.screen.text (as ++ b :: bs)) =
      extend w (style.resolveAtoms w.last w.screen.text (b :: bs)) := by
  induction as generalizing v with
  | nil => exact absurd rfl ink
  | cons a as ih =>
    cases as with
    | nil =>
      -- the last atom of the first part: open at its end, or decided by the atom after it
      rw [Style.resolveAtoms_singleton, settle_extend, List.singleton_append,
        Style.resolveAtoms_cons_cons, extend_resolved_cons]
      rfl
    | cons a' as =>
      have rest := ih (v.apply ((Context.resolveAtom ⟨style, v.last, v.screen.text⟩ a).action
        (some (Atom.literal a')))) (List.cons_ne_nil _ _)
      simp only [List.cons_append, Style.resolveAtoms_cons_cons, extend_resolved_cons]
      exact rest

theorem add_of_atoms (style : Style) (base : Base) {t : Translation} {english atom : Text}
    {rest : List Text} (text : t.english = some english)
    (atoms : Atom.trimmed english = atom :: rest) :
    let v := base.settle (some (Atom.literal atom))
    base.add style t = extend v (style.resolveAtoms v.last v.screen.text (atom :: rest)) := by
  have first : t.firstLiteral = Atom.literal atom := by
    simp [Translation.firstLiteral, text, atoms]
  have slots (last : Action) (output : Text) :
      style.resolve last output t = style.resolveAtoms last output (atom :: rest) := by
    simp [Style.resolve, text, atoms]
  change extend (base.settle (some t.firstLiteral)) (style.resolve _ _ t) = _
  rw [slots, first]

theorem add_eq_add_add (style : Style) (base : Base) {a b : Text} {first second both : Translation}
    (inkA : Atom.trimmed a ≠ []) (inkB : Atom.trimmed b ≠ [])
    (atoms : Atom.trimmed (a ++ b) = Atom.trimmed a ++ Atom.trimmed b)
    (textA : first.english = some a) (textB : second.english = some b)
    (textAB : both.english = some (a ++ b)) :
    base.add style both = (base.add style first).add style second := by
  obtain ⟨x, as, atomsA⟩ := List.exists_cons_of_ne_nil inkA
  obtain ⟨y, bs, atomsB⟩ := List.exists_cons_of_ne_nil inkB
  have atomsAB : Atom.trimmed (a ++ b) = x :: (as ++ y :: bs) := by
    rw [atoms, atomsA, atomsB, List.cons_append]
  rw [add_of_atoms style _ textAB atomsAB, add_of_atoms style _ textB atomsB,
    add_of_atoms style _ textA atomsA]
  exact extend_resolveAtoms_append style _ (List.cons_ne_nil x as) y bs

end Base

namespace Formatter
open ServiceCommand

/-- A translation may be typed in two, split at an atom boundary: text, schedule and last action are
the same, at once and after whatever is typed then, however it is all batched. -/
theorem split_shows_same (s : FormatterSettings) (o : Orthography) (cs : List ServiceCommand)
    (a b : Text) (first second both : Translation) (later : List Translation)
    (batches batches' : List (List Translation))
    (inkA : Atom.trimmed a ≠ []) (inkB : Atom.trimmed b ≠ [])
    (atoms : Atom.trimmed (a ++ b) = Atom.trimmed a ++ Atom.trimmed b)
    (textA : first.english = some a) (textB : second.english = some b)
    (textAB : both.english = some (a ++ b))
    (inTwo : batches.flatten = first :: second :: later) (inOne : batches'.flatten = both :: later)
    (follows : (new s o).followsHistory (cs ++ batches.map typing) = true)
    (follows' : (new s o).followsHistory (cs ++ batches'.map typing) = true) :
    let f := (new s o).run (cs ++ batches.map typing)
    let g := (new s o).run (cs ++ batches'.map typing)
    f.rendered = g.rendered ∧ f.lastAction = g.lastAction := by
  intro f g
  have hf := (holds_new s o).run follows
  have hg := (holds_new s o).run follows'
  rw [List.foldl_append, foldl_left_typing, inTwo] at hf
  rw [List.foldl_append, foldl_left_typing, inOne] at hg
  have same : f.whole = g.whole := by
    rw [hf.whole_eq_foldl_add, hg.whole_eq_foldl_add, List.foldl_append, List.foldl_append,
      List.foldl_cons, List.foldl_cons, List.foldl_cons,
      Base.add_eq_add_add _ _ inkA inkB atoms textA textB textAB]
  have view : f.view none = g.view none := by rw [view_eq, view_eq, same]
  have shown : f.shown = g.shown := by
    rw [isSettled_run s o _, isSettled_run s o _]
    exact congrArg View.screen view
  exact ⟨by rw [rendered_eq_shown hf.context, rendered_eq_shown hg.context, shown],
    congrArg View.last view⟩

/-- A translation that ends with an article, and one that decides it; another one takes the capital
that the second leaves. -/
theorem split_shows_same_article :
    let cs := [typing [.ofEnglish "once"], .format { undo := [.ofEnglish "once"] }]
    let a := "eat\x7b=[aeiou]/an/a\x7d".toList
    let b := "apple\x7b.\x7d".toList
    let first := Translation.ofEnglish "eat\x7b=[aeiou]/an/a\x7d"
    let second := Translation.ofEnglish "apple\x7b.\x7d"
    let both := Translation.ofEnglish "eat\x7b=[aeiou]/an/a\x7dapple\x7b.\x7d"
    let last := Translation.ofEnglish "now"
    let inTwo := (new { undoLevels := 1 } .empty).run (cs ++ [typing [first], typing [second, last]])
    let inOne := (new { undoLevels := 1 } .empty).run (cs ++ [typing [both, last]])
    Atom.trimmed (a ++ b) = Atom.trimmed a ++ Atom.trimmed b ∧
      inTwo.rendered = inOne.rendered ∧ inTwo.lastAction = inOne.lastAction ∧
      inTwo.rendered.text = " eat an apple. Now".toList := by
  intro cs a b first second both last inTwo inOne
  have atoms : Atom.trimmed (a ++ b) = Atom.trimmed a ++ Atom.trimmed b := by decide +kernel
  have inkA : Atom.trimmed a ≠ [] := by decide +kernel
  have inkB : Atom.trimmed b ≠ [] := by decide +kernel
  have follows : (new { undoLevels := 1 } .empty).followsHistory
      (cs ++ [[first], [second, last]].map typing) = true := by decide +kernel
  have follows' : (new { undoLevels := 1 } .empty).followsHistory
      (cs ++ [[both, last]].map typing) = true := by decide +kernel
  have same := split_shows_same { undoLevels := 1 } .empty cs a b first second both [last]
    [[first], [second, last]] [[both, last]] inkA inkB atoms rfl rfl rfl rfl rfl follows follows'
  exact ⟨atoms, same.1, same.2, by decide +kernel⟩

end Formatter
end Stenotype
