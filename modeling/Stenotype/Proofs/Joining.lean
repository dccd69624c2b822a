import Stenotype.Proofs.LastWord
import Stenotype.Proofs.Ending
import Stenotype.Proofs.Splitting

/-!
# Joining words

One command joins the last two words: the blanks between them go, and nothing else changes. Each
time that it comes again it joins one word more. The other command puts the separator of the last
action where the blanks were, so right after the first it takes the joining back if the separator is
what the blanks were.
-/

set_option autoImplicit false

namespace Stenotype

namespace Text

/-- The last word and the `n` words before it as one word; with all words before it, if they are
fewer. -/
def joinLast (n : Nat) (ws : List (Text × Text)) : List (Text × Text) :=
  match ws.getLast? with
  | none => []
  | some w =>
    let front := ws.dropLast
    let k := front.length - n
    front.take k ++ [((front.drop k).flatMap Prod.fst ++ w.1, w.2)]

theorem joinLast_concat (n : Nat) (front : List (Text × Text)) (w : Text × Text) :
    joinLast n (front ++ [w]) =
      front.take (front.length - n) ++
        [((front.drop (front.length - n)).flatMap Prod.fst ++ w.1, w.2)] := by
  simp only [joinLast, List.getLast?_concat, List.dropLast_concat]

theorem joinLast_zero (ws : List (Text × Text)) : joinLast 0 ws = ws := by
  rcases List.eq_nil_or_concat ws with rfl | ⟨front, w, rfl⟩
  · rfl
  · rw [List.concat_eq_append, joinLast_concat, Nat.sub_zero, List.take_length, List.drop_length,
      List.flatMap_nil, List.nil_append]

theorem short_or_pair (ws : List (Text × Text)) :
    ws.length < 2 ∨ ∃ front v w, ws = front ++ [v] ++ [w] := by
  rcases List.eq_nil_or_concat ws with rfl | ⟨front, w, rfl⟩
  · exact .inl (by simp)
  · rcases List.eq_nil_or_concat front with rfl | ⟨front, v, rfl⟩
    · exact .inl (by simp)
    · exact .inr ⟨front, v, w, by rw [List.concat_eq_append, List.concat_eq_append]⟩

theorem joinLast_of_short (n : Nat) {ws : List (Text × Text)} (short : ws.length < 2) :
    joinLast n ws = ws := by
  match ws, short with
  | [], _ => rfl
  | [w], _ => simpa using joinLast_concat n [] w

theorem joinLast_one (front : List (Text × Text)) (v w : Text × Text) :
    joinLast 1 (front ++ [v] ++ [w]) = front ++ [(v.1 ++ w.1, w.2)] := by
  have length : (front ++ [v]).length - 1 = front.length := by simp
  rw [joinLast_concat, length, List.take_left, List.drop_left, List.flatMap_singleton]

theorem joinLast_joinLast_one (n : Nat) (ws : List (Text × Text)) :
    joinLast n (joinLast 1 ws) = joinLast (n + 1) ws := by
  rcases short_or_pair ws with short | ⟨front, v, w, rfl⟩
  · rw [joinLast_of_short 1 short, joinLast_of_short n short, joinLast_of_short (n + 1) short]
  · have length : (front ++ [v]).length - (n + 1) = front.length - n := by simp
    rw [joinLast_one, joinLast_concat, joinLast_concat, length,
      List.take_append_of_le_length (Nat.sub_le _ _), List.drop_append_of_le_length (Nat.sub_le _ _),
      List.flatMap_append, List.flatMap_singleton, List.append_assoc]

namespace FallsInto
variable {s lead : Text} {front : List (Text × Text)} {v w : Text × Text}

theorem joined (h : s.FallsInto lead (front ++ [v] ++ [w])) :
    (lead ++ spread (front ++ [(v.1 ++ w.1, w.2)])).FallsInto lead (front ++ [(v.1 ++ w.1, w.2)]) := by
  have last : w ∈ front ++ [v] ++ [w] := List.mem_append_right _ (List.mem_singleton_self w)
  have others : ∀ u ∈ front ++ [v], u ∈ front ++ [v] ++ [w] := fun u => List.mem_append_left _
  obtain ⟨someInk, ink⟩ := h.ink w last
  have inkBefore := (h.ink v (others v (List.mem_append_right _ (List.mem_singleton_self v)))).2
  refine ⟨rfl, h.leadBlank, ?_, ?_, ?_⟩
  · intro u mem
    rcases List.mem_append.1 mem with mem | mem
    · exact h.ink u (others u (List.mem_append_left _ mem))
    · rw [List.mem_singleton.1 mem]
      exact ⟨List.append_ne_nil_of_right_ne_nil _ someInk, List.forall_mem_append.2 ⟨inkBefore, ink⟩⟩
  · intro u mem
    rcases List.mem_append.1 mem with mem | mem
    · exact h.blank u (others u (List.mem_append_left _ mem))
    · rw [List.mem_singleton.1 mem]
      exact h.blank w last
  · intro u mem
    rw [List.dropLast_concat] at mem
    exact h.apart u (by
      rw [List.dropLast_concat]
      exact List.mem_append_left _ mem)

end FallsInto
end Text

namespace Context
open Text (FallsInto spread)
variable {c : Context} {lead : Text} {front : List (Text × Text)} {v w : Text × Text}

theorem edit_copyLast (c : Context) (s : Text) : c.copyLast.edit s = s := by
  change Text.dropLast 0 s ++ [] = s
  rw [Text.dropLast_zero, List.append_nil]

theorem deleteSpace_concat (h : c.output.FallsInto lead (front ++ [v] ++ [w])) :
    c.deleteSpace =
      { c.copyLast with
        prevAttach := true, replace := v.2 ++ w.1 ++ w.2, text := w.1 ++ w.2
        word := Text.rightmostWord (lead ++ spread front ++ v.1) ++ w.1 } := by
  have head : Text.dropLast (w.1.length + w.2.length) c.output = lead ++ spread (front ++ [v]) := by
    rw [h.whole_concat, List.append_assoc, ← List.length_append, Text.dropLast_append_length]
  have before := h.init.isLastWord.trimEnd_eq
  have blanks := h.init.isLastWord.trailingBlanks_eq
  rw [← h.init.whole_concat] at before blanks
  have someInk : lead ++ spread front ++ v.1 ≠ [] :=
    List.append_ne_nil_of_right_ne_nil _ h.init.isLastWord.ne
  have someBlank : v.2 ≠ [] := h.apart v (by
    rw [List.dropLast_concat]
    exact List.mem_append_right _ (List.mem_singleton_self v))
  rw [deleteSpace, lastWordWithTail?_of_isLastWord h.isLastWord h.whole_concat]
  simp only [head, before, blanks]
  rw [if_neg]
  rw [Bool.or_eq_true, List.isEmpty_iff, List.isEmpty_iff]
  exact fun none => none.elim someInk someBlank

theorem deleteSpace_of_short {ws : List (Text × Text)} (h : c.output.FallsInto lead ws)
    (short : ws.length < 2) : c.deleteSpace = c.copyLast := by
  match ws, short with
  | [], _ =>
    have none : c.lastWordWithTail? = none := by
      rw [lastWordWithTail?, h.words_eq]
      rfl
    rw [deleteSpace, none]
  | [w], _ =>
    have h : c.output.FallsInto lead ([] ++ [w]) := h
    have head : Text.dropLast (w.1.length + w.2.length) c.output = lead := by
      rw [h.whole_concat, List.append_assoc, ← List.length_append, Text.dropLast_append_length, spread,
        List.flatMap_nil, List.append_nil]
    rw [deleteSpace, lastWordWithTail?_of_isLastWord h.isLastWord h.whole_concat]
    simp only [head, Text.trimEnd_eq_nil h.leadBlank]
    rw [if_pos (by rfl)]

theorem edit_of_output {a : Action} {s : Text} (output : c.output = s ++ a.replace) :
    a.edit c.output = s ++ a.text := by
  rw [Action.edit, output, Text.dropLast_append_length]

theorem edit_deleteSpace_concat (h : c.output.FallsInto lead (front ++ [v] ++ [w])) :
    c.deleteSpace.edit c.output = lead ++ spread front ++ v.1 ++ (w.1 ++ w.2) := by
  rw [deleteSpace_concat h]
  refine edit_of_output ?_
  change c.output = lead ++ spread front ++ v.1 ++ (v.2 ++ w.1 ++ w.2)
  rw [h.whole_concat, h.init.whole_concat]
  simp only [List.append_assoc]

theorem fallsInto_deleteSpace {ws : List (Text × Text)} (h : c.output.FallsInto lead ws) :
    (c.deleteSpace.edit c.output).FallsInto lead (Text.joinLast 1 ws) := by
  rcases Text.short_or_pair ws with short | ⟨front, v, w, rfl⟩
  · rw [deleteSpace_of_short h short, edit_copyLast, Text.joinLast_of_short 1 short]
    exact h
  · have joined := h.joined
    rw [Text.spread_concat] at joined
    rw [edit_deleteSpace_concat h, Text.joinLast_one]
    simpa only [List.append_assoc] using joined

theorem insertSpace_of_not_attached (free : c.last.prevAttach = false) :
    c.insertSpace = c.copyLast := by
  rw [insertSpace, if_neg]
  simp [free]

theorem edit_insertSpace {s : Text} (attached : c.last.prevAttach = true) (typed : c.last.text ≠ [])
    (output : c.output = s ++ c.last.text) :
    c.insertSpace.edit c.output = s ++ (c.last.spaceChar ++ c.last.text) := by
  have ends : Text.endsWith c.last.text c.output = true := by
    rw [output]
    exact List.isSuffixOf_iff_suffix.2 (List.suffix_append _ _)
  rw [insertSpace, if_pos]
  · exact edit_of_output output
  · simp [attached, ends, typed]

theorem edit_insertSpace_of_joined (h : c.output.FallsInto lead (front ++ [v] ++ [w])) :
    let d := c.step c.deleteSpace
    d.insertSpace.edit d.output =
      lead ++ spread front ++ v.1 ++ c.last.spaceChar ++ (w.1 ++ w.2) := by
  intro d
  obtain ⟨attached, text, space⟩ : d.last.prevAttach = true ∧ d.last.text = w.1 ++ w.2 ∧
      d.last.spaceChar = c.last.spaceChar := by
    change c.deleteSpace.prevAttach = _ ∧ c.deleteSpace.text = _ ∧ c.deleteSpace.spaceChar = _
    rw [deleteSpace_concat h]
    exact ⟨rfl, rfl, rfl⟩
  have output : d.output = lead ++ spread front ++ v.1 ++ d.last.text := by
    rw [text]
    exact edit_deleteSpace_concat h
  have typed : d.last.text ≠ [] := by
    rw [text]
    exact List.append_ne_nil_of_left_ne_nil h.isLastWord.ne _
  rw [edit_insertSpace attached typed output, text, space, List.append_assoc _ c.last.spaceChar]

/-- The separator takes a joining back if it is what the blanks were. -/
theorem edit_insertSpace_eq_iff {ws : List (Text × Text)} (h : c.output.FallsInto lead ws) :
    let d := c.step c.deleteSpace
    d.insertSpace.edit d.output = c.output ↔
      ∀ v ∈ ws.dropLast.getLast?, v.2 = c.last.spaceChar := by
  intro d
  rcases Text.short_or_pair ws with short | ⟨front, v, w, rfl⟩
  · have alone : ws.dropLast = [] :=
      List.eq_nil_of_length_eq_zero (by rw [List.length_dropLast]; omega)
    have output : d.output = c.output := by
      change c.deleteSpace.edit c.output = c.output
      rw [deleteSpace_of_short h short, edit_copyLast]
    have free : d.last.prevAttach = false := by
      change c.deleteSpace.prevAttach = false
      rw [deleteSpace_of_short h short]
      rfl
    rw [insertSpace_of_not_attached free, edit_copyLast, output, alone]
    simp
  · have whole : c.output = lead ++ spread front ++ v.1 ++ v.2 ++ (w.1 ++ w.2) := by
      rw [h.whole_concat, h.init.whole_concat, List.append_assoc _ w.1]
    rw [edit_insertSpace_of_joined h, List.dropLast_concat, List.getLast?_concat]
    constructor
    · intro same v' last
      cases last
      rw [whole, List.append_cancel_right_eq, List.append_cancel_left_eq] at same
      exact same.symm
    · intro blanks
      rw [whole, blanks v rfl]

end Context

def Translation.atoms (t : Translation) : List Text := (t.english.map Atom.trimmed).getD []

/-- The view when an atom has followed, with nothing after it. -/
def View.follow (style : Style) (v : View) (atom : Text) : View :=
  v.apply ((Context.resolveAtom ⟨style, v.last, v.screen.text⟩ atom).action none)

/-- What the atom becomes does not depend on the one after it. -/
def Atom.IsDecided (atom : Text) : Prop := ∀ c : Context, ∃ a, c.resolveAtom atom = .resolved a

namespace Base

theorem extend_resolveAtoms_eq_foldl_follow (style : Style) (v : View) {atoms : List Text}
    (decided : ∀ atom ∈ atoms, Atom.IsDecided atom) :
    extend v (style.resolveAtoms v.last v.screen.text atoms) =
      ⟨atoms.foldl (View.follow style) v, none⟩ := by
  induction atoms generalizing v with
  | nil => rfl
  | cons atom rest ih =>
    obtain ⟨first, others⟩ := List.forall_mem_cons.1 decided
    obtain ⟨a, here⟩ := first ⟨style, v.last, v.screen.text⟩
    have later := ih (v.apply a) others
    rw [Style.resolveAtoms, here, List.foldl_cons, View.follow, here]
    exact (extend_resolved_cons v a _).trans later

theorem add_eq_foldl_follow (style : Style) (v : View) {t : Translation} (some_atoms : t.atoms ≠ [])
    (decided : ∀ atom ∈ t.atoms, Atom.IsDecided atom) :
    add style ⟨v, none⟩ t = ⟨t.atoms.foldl (View.follow style) v, none⟩ := by
  rw [← extend_resolveAtoms_eq_foldl_follow style v decided]
  obtain ⟨atom, rest, atoms⟩ := List.exists_cons_of_ne_nil some_atoms
  cases text : t.english with
  | none => simp [Translation.atoms, text] at some_atoms
  | some english =>
    have trimmed : Atom.trimmed english = atom :: rest := by
      simpa [Translation.atoms, text] using atoms
    rw [add_of_atoms style _ text trimmed, atoms]
    rfl

theorem foldl_add_eq_foldl_follow (style : Style) (v : View) {ts : List Translation}
    (some_atoms : ∀ t ∈ ts, t.atoms ≠ [])
    (decided : ∀ atom ∈ ts.flatMap Translation.atoms, Atom.IsDecided atom) :
    ts.foldl (add style) ⟨v, none⟩ =
      ⟨(ts.flatMap Translation.atoms).foldl (View.follow style) v, none⟩ := by
  induction ts generalizing v with
  | nil => rfl
  | cons t ts ih =>
    obtain ⟨some_first, some_later⟩ := List.forall_mem_cons.1 some_atoms
    rw [List.flatMap_cons] at decided ⊢
    obtain ⟨first, later⟩ := List.forall_mem_append.1 decided
    rw [List.foldl_cons, add_eq_foldl_follow style v some_first first, ih _ some_later later,
      List.foldl_append]

end Base

def Atom.joining : Text := "\x7b*!\x7d".toList

def Atom.separating : Text := "\x7b*?\x7d".toList

theorem Context.resolveAtom_joining (c : Context) :
    c.resolveAtom Atom.joining = .resolved c.deleteSpace := rfl

theorem Context.resolveAtom_separating (c : Context) :
    c.resolveAtom Atom.separating = .resolved c.insertSpace := rfl

theorem Atom.isDecided_joining : IsDecided joining := fun c => ⟨_, c.resolveAtom_joining⟩

theorem Atom.isDecided_separating : IsDecided separating := fun c => ⟨_, c.resolveAtom_separating⟩

namespace View
open Text (joinLast spread words)
variable {style : Style} {v : View} {lead : Text} {ws : List (Text × Text)}

theorem fallsInto_foldl_joining (n : Nat) (h : v.screen.text.FallsInto lead ws) :
    ((List.replicate n Atom.joining).foldl (follow style) v).screen.text.FallsInto lead
      (joinLast n ws) := by
  induction n generalizing v ws with
  | zero =>
    rw [Text.joinLast_zero]
    exact h
  | succ n ih =>
    have once : (v.follow style Atom.joining).screen.text.FallsInto lead (joinLast 1 ws) := by
      rw [follow, Context.resolveAtom_joining]
      exact Context.fallsInto_deleteSpace (c := ⟨style, v.last, v.screen.text⟩) h
    rw [List.replicate_succ, List.foldl_cons, ← Text.joinLast_joinLast_one]
    exact ih once

theorem follow_joining_separating_iff (h : v.screen.text.FallsInto lead ws) :
    ((v.follow style Atom.joining).follow style Atom.separating).screen.text = v.screen.text ↔
      ∀ w ∈ ws.dropLast.getLast?, w.2 = v.last.spaceChar := by
  rw [follow, follow, Context.resolveAtom_joining, Context.resolveAtom_separating]
  exact Context.edit_insertSpace_eq_iff (c := ⟨style, v.last, v.screen.text⟩) h

end View

namespace Base
open Text (joinLast spread words)

/-- Every text falls into words with blanks after them. Joining once takes out the blanks between the
last two words, if there are two, and changes nothing else; joining `n` times makes one word of the
last word and the `n` before it, or of all if they are fewer. A separator right after a joining
gives the text back exactly if it is what the blanks were, or if nothing was joined. -/
theorem joining_and_separating (style : Style) (v : View) :
    (∃ lead ws, v.screen.text.FallsInto lead ws) ∧
      ∀ lead ws, v.screen.text.FallsInto lead ws → words v.screen.text = ws.map Prod.fst ∧
        ∀ ts : List Translation, (∀ t ∈ ts, t.atoms ≠ []) →
          let text := ((ts.foldl (add style) ⟨v, none⟩).settle none).screen.text
          let atoms := ts.flatMap Translation.atoms
          (atoms = [Atom.joining] → ws.length < 2 → text = v.screen.text) ∧
          (atoms = [Atom.joining] → ∀ front u w, ws = front ++ [u] ++ [w] →
            text = lead ++ spread front ++ u.1 ++ w.1 ++ w.2 ∧
              words text = front.map Prod.fst ++ [u.1 ++ w.1]) ∧
          (∀ n, atoms = List.replicate n Atom.joining →
            text = lead ++ spread (joinLast n ws) ∧ words text = (joinLast n ws).map Prod.fst) ∧
          (atoms = [Atom.joining, Atom.separating] →
            (text = v.screen.text ↔ ∀ u ∈ ws.dropLast.getLast?, u.2 = v.last.spaceChar)) := by
  refine ⟨v.screen.text.exists_fallsInto, fun lead ws falls => ⟨falls.words_eq, ?_⟩⟩
  intro ts some_atoms text atoms
  have typed (decided : ∀ atom ∈ atoms, Atom.IsDecided atom) :
      text = (atoms.foldl (View.follow style) v).screen.text := by
    change ((ts.foldl (add style) ⟨v, none⟩).settle none).screen.text = _
    rw [foldl_add_eq_foldl_follow style v some_atoms decided]
    rfl
  have joined (n : Nat) (all : atoms = List.replicate n Atom.joining) :
      text.FallsInto lead (joinLast n ws) := by
    have decided : ∀ atom ∈ atoms, Atom.IsDecided atom := fun atom mem =>
      List.eq_of_mem_replicate (all ▸ mem) ▸ Atom.isDecided_joining
    rw [typed decided, all]
    exact View.fallsInto_foldl_joining n falls
  refine ⟨fun once short => ?_, ?_, fun n all => ⟨(joined n all).whole, (joined n all).words_eq⟩, ?_⟩
  · rw [(joined 1 once).whole, Text.joinLast_of_short 1 short, falls.whole]
  · rintro once front u w rfl
    have h := joined 1 once
    rw [Text.joinLast_one] at h
    refine ⟨by rw [h.whole_concat, ← List.append_assoc _ u.1], ?_⟩
    rw [h.words_eq, List.map_append, List.map_singleton]
  · intro both
    have decided : ∀ atom ∈ atoms, Atom.IsDecided atom := by
      rw [both]
      exact List.forall_mem_cons.2
        ⟨Atom.isDecided_joining, List.forall_mem_singleton.2 Atom.isDecided_separating⟩
    rw [typed decided, both]
    exact View.follow_joining_separating_iff falls

/-- The blanks that are taken out may be any. -/
theorem joining_and_separating_em_space :
    let v : View :=
      ⟨⟨"\u2003one two\u2003three\u2003four ".toList, []⟩, { spaceChar := "\u2003".toList }⟩
    let ws := [("one".toList, " ".toList), ("two".toList, "\u2003".toList),
      ("three".toList, "\u2003".toList), ("four".toList, " ".toList)]
    let text (ts : List Translation) :=
      ((ts.foldl (add ⟨.after, .empty⟩) ⟨v, none⟩).settle none).screen.text
    v.screen.text.FallsInto "\u2003".toList ws ∧
      text [.ofEnglish "\x7b*!\x7d"] = "\u2003one two\u2003threefour ".toList ∧
      text [.ofEnglish "\x7b*!\x7d", .ofEnglish "\x7b*!\x7d\x7b*!\x7d"] =
        "\u2003onetwothreefour ".toList ∧
      text [.ofEnglish "\x7b*!\x7d\x7b*?\x7d"] = v.screen.text := by
  intro v ws text
  have cut : Text.isAllBlank "\u2003".toList = true ∧
      (ws.all fun w => !w.1.isEmpty && w.1.all fun c => !Text.isBlank c) = true ∧
        (ws.all fun w => Text.isAllBlank w.2) = true := by
    decide
  have falls : v.screen.text.FallsInto "\u2003".toList ws :=
    ⟨rfl, List.all_eq_true.1 cut.1, by simpa using cut.2.1, by simpa [Text.isAllBlank] using cut.2.2,
      by decide⟩
  have pair : ws = ws.take 2 ++ [("three".toList, "\u2003".toList)] ++ [("four".toList, [' '])] := rfl
  obtain ⟨joining, twice, both⟩ :
      (Translation.ofEnglish "\x7b*!\x7d").atoms = [Atom.joining] ∧
        (Translation.ofEnglish "\x7b*!\x7d\x7b*!\x7d").atoms = [Atom.joining, Atom.joining] ∧
        (Translation.ofEnglish "\x7b*!\x7d\x7b*?\x7d").atoms = [Atom.joining, Atom.separating] := by
    decide +kernel
  obtain ⟨-, here⟩ := (joining_and_separating ⟨.after, .empty⟩ v).2 _ _ falls
  obtain ⟨-, once, -, -⟩ := here [.ofEnglish "\x7b*!\x7d"] (by simp [joining])
  obtain ⟨-, -, thrice, -⟩ :=
    here [.ofEnglish "\x7b*!\x7d", .ofEnglish "\x7b*!\x7d\x7b*!\x7d"] (by simp [joining, twice])
  obtain ⟨-, -, -, back⟩ := here [.ofEnglish "\x7b*!\x7d\x7b*?\x7d"] (by simp [both])
  have joined := (once (by simp [joining]) _ _ _ pair).1
  have joinedAll := (thrice 3 (by simp [joining, twice, List.replicate])).1
  have givenBack := (back (by simp [both])).2 (by decide)
  exact ⟨falls, joined, joinedAll, givenBack⟩

end Base
end Stenotype
