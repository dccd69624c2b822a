import Stenotype.Proofs.LostFront

/-!
# Runs with separators before words and after them

Two formatters that type the same translations and put their separators on different sides are
compared after whole runs. Where neither has lost anything, the one text is the other with its
separator moved. Texts of different lengths are cut back at different places, so otherwise both are
ends of what they would be.
-/

set_option autoImplicit false

namespace Stenotype

theorem Translation.onlyTypes_of_isTextual {t : Translation} (textual : t.isTextual = true) :
    t.onlyTypes = true := by
  cases english : t.english with
  | none => simp only [onlyTypes, english]
  | some english' =>
    simp only [isTextual, english, Bool.and_eq_true] at textual
    simp only [onlyTypes, english, textual.2]

namespace Formatter
open ServiceCommand

/-- `before` shows `x` after `lead`, `after` shows it with the separator that is pending, and their
last actions differ in what they typed and took back at most. -/
def OnlySeparatorMoves (lead x : Text) (before after : Formatter) : Prop :=
  before.rendered.text = lead ++ x ∧
    after.rendered.text = x ++ (if after.lastAction.nextAttach then [] else [' ']) ∧
    after.lastAction =
      { before.lastAction with
        text := after.lastAction.text, replace := after.lastAction.replace }

/-- As `OnlySeparatorMoves`, but for what both may have lost of the front. -/
def OnlySeparatorMovesAtEnd (lead x : Text) (before after : Formatter) : Prop :=
  before.rendered.text <:+ lead ++ x ∧
    after.rendered.text <:+ x ++ (if after.lastAction.nextAttach then [] else [' ']) ∧
    after.lastAction =
      { before.lastAction with
        text := after.lastAction.text, replace := after.lastAction.replace }

section
variable {f g : Formatter} {lead x : Text} {v w : View}

theorem onlySeparatorMoves_of_abreast (abreast : View.Abreast lead x v w)
    (before : f.rendered = v.screen ∧ f.lastAction = v.last)
    (after : g.rendered = w.screen ∧ g.lastAction = w.last) : OnlySeparatorMoves lead x f g := by
  rw [OnlySeparatorMoves, before.1, before.2, after.1, after.2, abreast.nextAttach_eq]
  exact ⟨abreast.before, abreast.after, abreast.last⟩

theorem onlySeparatorMovesAtEnd_of_abreast (abreast : View.Abreast lead x v w)
    (before : f.rendered.text <:+ v.screen.text ∧
      f.lastAction = { v.last with replace := f.lastAction.replace })
    (after : g.rendered.text <:+ w.screen.text ∧
      g.lastAction = { w.last with replace := g.lastAction.replace }) :
    OnlySeparatorMovesAtEnd lead x f g := by
  have next : g.lastAction.nextAttach = v.last.nextAttach := by
    rw [after.2]
    exact abreast.nextAttach_eq
  have typed : g.lastAction.text = w.last.text := by rw [after.2]
  refine ⟨?_, ?_, ?_⟩
  · rw [← abreast.before]
    exact before.1
  · rw [next]
    exact abreast.after ▸ after.1
  · rw [typed, before.2, after.2, abreast.last]

theorem Holds.shows {start : Base} {style : Style} {ts : List Translation}
    (h : Holds start style f ts) (settled : f.IsSettled) :
    f.rendered = ((ts.foldl (Base.add style) start).settle none).screen ∧
      f.lastAction = ((ts.foldl (Base.add style) start).settle none).last := by
  rw [rendered_eq_shown h.context, settled, lastAction, h.view]
  exact ⟨rfl, rfl⟩

end

theorem followsHistory_new_typing (s : FormatterSettings) (o : Orthography) {ts : List Translation}
    (room : ts.length ≤ s.undoLevels) : (new s o).followsHistory [typing ts] = true := by
  have within : ((new s o).takeBack 0).appendsWithin ts = true := by
    rw [takeBack_zero]
    refine appendsWithin_of_room ?_
    rw [show (new s o).history.entries = [] from rfl, List.length_nil, Nat.zero_add]
    exact Nat.le_trans room (Nat.le_max_left _ 1)
  simp only [followsHistory, typing, endsWith_nil, List.length_nil, within]
  rfl

/-- Text, marks, glue and affixes come out the same with separators before words and after them, but
for a separator at the start of the one and at the end of the other. That holds after any two runs
that leave the same translations and keep their bases within the limit, and so after one request if
the histories have room for them. Whatever the bases have lost, both show ends of these texts. -/
theorem placement_moves_only_separator (s : FormatterSettings) (o : Orthography)
    (first : Translation) (rest : List Translation)
    (textual : ∀ t ∈ first :: rest, t.isTextual = true) :
    let lead := if first.attachesTo (startAction s) || s.startAttached then [] else [' ']
    let before (undoLevels : Nat) := new { s with spacePlacement := .before, undoLevels } o
    let after (undoLevels : Nat) := new { s with spacePlacement := .after, undoLevels } o
    ∃ x,
      (∀ m n cs cs', leftByAll cs = first :: rest → leftByAll cs' = first :: rest →
        (before m).followsHistory cs = true → (after n).followsHistory cs' = true →
        OnlySeparatorMoves lead x ((before m).run cs) ((after n).run cs')) ∧
      (∀ m n, (first :: rest).length ≤ m → (first :: rest).length ≤ n →
        OnlySeparatorMoves lead x ((before m).format [] (first :: rest) none).1
          ((after n).format [] (first :: rest) none).1) ∧
      ∀ m n (batches batches' : List (List Translation)),
        batches.flatten = first :: rest → batches'.flatten = first :: rest →
        OnlySeparatorMovesAtEnd lead x ((before m).run (batches.map typing))
          ((after n).run (batches'.map typing)) := by
  intro lead before after
  obtain ⟨x, abreast⟩ :=
    Base.abreast_of_textual s.startCapitalized s.startAttached o textual
  have runs : ∀ m n cs cs', leftByAll cs = first :: rest → leftByAll cs' = first :: rest →
      (before m).followsHistory cs = true → (after n).followsHistory cs' = true →
      OnlySeparatorMoves lead x ((before m).run cs) ((after n).run cs') := by
    intro m n cs cs' left left' follows follows'
    have hf := (holds_new { s with spacePlacement := .before, undoLevels := m } o).run follows
    have hg := (holds_new { s with spacePlacement := .after, undoLevels := n } o).run follows'
    rw [show cs.foldl ServiceCommand.left [] = first :: rest from left] at hf
    rw [show cs'.foldl ServiceCommand.left [] = first :: rest from left'] at hg
    exact onlySeparatorMoves_of_abreast abreast (hf.shows (isSettled_run _ o cs))
      (hg.shows (isSettled_run _ o cs'))
  refine ⟨x, runs, fun m n roomB roomA => ?_, fun m n batches batches' typed typed' => ?_⟩
  · exact runs m n [typing (first :: rest)] [typing (first :: rest)] rfl rfl
      (followsHistory_new_typing _ o roomB) (followsHistory_new_typing _ o roomA)
  · have only (t) (mem : t ∈ first :: rest) := Translation.onlyTypes_of_isTextual (textual t mem)
    exact onlySeparatorMovesAtEnd_of_abreast abreast (run_typing_showsEnd _ o typed only)
      (run_typing_showsEnd _ o typed' only)

/-- The suffix retypes the end of the word, which stands further back where a separator is
pending. -/
theorem placement_moves_only_separator_retyped :
    let o := Orthography.ofTable [(r"^(.+)e \^ ing$", "1ing")]
    let ts := [Translation.ofEnglish "drive", .ofEnglish "\x7b^ing\x7d\x7b,\x7d\x7b&a\x7d",
      .ofOutlines [['5']] none, .ofEnglish "\x7bre^\x7dmake"]
    let before := ((new {} o).format [] ts none).1
    let after := ((new { spacePlacement := .after } o).format [] ts none).1
    (∀ t ∈ ts, t.isTextual = true) ∧
      OnlySeparatorMoves [' '] "driving, a5 remake".toList before after := by
  intro o ts before after
  have textual : ∀ t ∈ ts, t.isTextual = true := by decide +kernel
  have apart : ((Translation.ofEnglish "drive").attachesTo (startAction {}) ||
      FormatterSettings.startAttached {}) = false := by decide +kernel
  obtain ⟨x, -, moves, -⟩ := placement_moves_only_separator {} o _ _ textual
  have moves := moves 100 100 (by decide) (by decide)
  rw [apart] at moves
  have shown : before.rendered.text = [' '] ++ "driving, a5 remake".toList := by decide +kernel
  obtain rfl := List.append_cancel_left (shown.symm.trans moves.1)
  exact ⟨textual, moves⟩

/-- With separators before words the first word makes the base one character longer, and that is one
too many. -/
theorem separators_cut_apart :
    let first := Translation.ofOutlines []
      (some ("\x7b".toList ++ List.replicate 1024 'a' ++ "^\x7d".toList))
    let ts := [first, .ofEnglish "b"]
    let before := ((new { undoLevels := 1 } .empty).format [] ts none).1
    let after := ((new { spacePlacement := .after, undoLevels := 1 } .empty).format [] ts none).1
    (∀ t ∈ ts, t.isTextual = true) ∧ first.attachesTo (startAction {}) = false ∧
      ∀ x, ¬OnlySeparatorMoves [' '] x before after := by
  intro first ts before after
  have cut : before.rendered.text = List.replicate 512 'a' ++ ['b'] := by decide +kernel
  refine ⟨by decide +kernel, by decide +kernel, ?_⟩
  rintro x ⟨shown, -⟩
  have first_eq : 'a' = ' ' := (List.cons.inj (cut.symm.trans shown)).1
  exact absurd first_eq (by decide)

end Formatter
end Stenotype
