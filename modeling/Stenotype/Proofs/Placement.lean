import Stenotype.Proofs.Held
import Stenotype.Proofs.Patches

/-!
# Where separators go

A formatter that puts separators before words and one that puts them after words type the same text,
but for a separator at the start of the one and at the end of the other. After every patch the one
that separates afterwards is a pending separator ahead; a patch that is attached takes the separator
back, and one that reaches into the last word looks past it.
-/

set_option autoImplicit false

namespace Stenotype

namespace Context

theorem wordTail_eq {c : Context} {s : Text} (output : c.output = s ++ c.pendingSeparator) (n : Nat) :
    c.wordTail n = Text.takeLast n s := by
  have tail : Text.takeLast (n + c.pendingSeparator.length) c.output =
      Text.takeLast n s ++ c.pendingSeparator := by
    rw [output, Text.takeLast_add_append]
  rw [wordTail, tail, Text.beforeEnd?_eq_some_iff.2 rfl]
  rfl

theorem put_before {c : Context} (placement : c.placement = .before) {p : Patch}
    (spaceChar : p.action.spaceChar = [' ']) :
    c.put p =
      { p.action with
        replace := c.wordTail p.retyped
        text := if c.isAttached p.action then p.text else ' ' :: p.text } := by
  simp only [put, place, placement, spaceChar]
  rfl

end Context

/-- The separator that the next word finds before it, or brings along. -/
def Action.separator (a : Action) : Text := if a.nextAttach then [] else [' ']

theorem Action.endsWith_separator {a : Action} (apart : a.nextAttach = false) (s : Text) :
    Text.endsWith [' '] (s ++ a.separator) = true := by
  rw [separator, apart]
  exact List.isSuffixOf_iff_suffix.2 (List.suffix_append _ _)

theorem Context.put_after {c : Context} (placement : c.placement = .after) {p : Patch}
    (spaceChar : p.action.spaceChar = [' ']) :
    c.put p =
      { p.action with
        replace := c.wordTail p.retyped ++ if c.isAttached p.action then c.pendingSeparator else []
        text := p.text ++ p.action.separator } := by
  cases before : p.action.prevAttach <;> cases after : c.last.nextAttach <;>
    cases next : p.action.nextAttach <;>
    simp [put, place, isAttached, placement, spaceChar, before, after, next, Action.separator]

namespace View

/-- `b` and `a` show `x`, the one with separators before words and the other with separators after
them. -/
structure Abreast (lead x : Text) (b a : View) : Prop where
  last : a.last = { b.last with text := a.last.text, replace := a.last.replace }
  before : b.screen.text = lead ++ x
  after : a.screen.text = x ++ b.last.separator
  separated : b.last.nextAttach = false → Text.endsWith [' '] a.last.text = true
  word : b.last.word.length ≤ x.length
  ordinary : b.last.IsOrdinary

theorem Abreast.nextAttach_eq {lead x : Text} {b a : View} (h : Abreast lead x b a) :
    a.last.nextAttach = b.last.nextAttach := by
  rw [h.last]

theorem Abreast.pendingSeparator_eq {lead x : Text} {b a : View} (h : Abreast lead x b a)
    (o : Orthography) :
    Context.pendingSeparator ⟨⟨.after, o⟩, a.last, a.screen.text⟩ = b.last.separator := by
  have spaceChar : a.last.spaceChar = [' '] := by
    rw [h.last]
    exact h.ordinary.spaceChar
  rw [Context.pendingSeparator, spaceChar, h.nextAttach_eq, h.after]
  cases attach : b.last.nextAttach with
  | true => simp [Action.separator, attach]
  | false =>
    rw [if_pos ⟨rfl, rfl, h.separated attach, Action.endsWith_separator attach x⟩, Action.separator,
      attach]
    rfl

def patched (p : Patch) (last : Action) (x : Text) : Text :=
  if p.action.prevAttach || last.nextAttach then Text.dropLast p.retyped x ++ p.text
  else x ++ ' ' :: p.text

theorem length_word_le_patched {p : Patch} {last : Action} {x : Text} (fits : p.Fits last)
    (word : last.word.length ≤ x.length) :
    p.action.word.length ≤ (patched p last x).length := by
  have here := fits.word
  have retyped := fits.retyped
  unfold patched
  split
  · rw [List.length_append, Text.dropLast, List.length_take]
    omega
  · rw [List.length_append, List.length_cons]
    omega

theorem Abreast.type {lead x : Text} {b a : View} (h : Abreast lead x b a) (o : Orthography)
    (k : Typing) :
    ∃ x', Abreast lead x' (b.type ⟨.before, o⟩ k) (a.type ⟨.after, o⟩ k) := by
  let cb : Context := ⟨⟨.before, o⟩, b.last, b.screen.text⟩
  let ca : Context := ⟨⟨.after, o⟩, a.last, a.screen.text⟩
  obtain ⟨p, puts, -⟩ := k.puts (c := cb) h.ordinary
  obtain ⟨ordinary, retyped, attached, word⟩ := puts.fits
  have le : p.retyped ≤ x.length := Nat.le_trans retyped h.word
  have pending : ca.pendingSeparator = b.last.separator := h.pendingSeparator_eq o
  have tail_b : cb.wordTail p.retyped = Text.takeLast p.retyped x := by
    have output : cb.output = (lead ++ x) ++ cb.pendingSeparator := by
      rw [Context.pendingSeparator_before rfl, List.append_nil]
      exact h.before
    rw [Context.wordTail_eq output, Text.takeLast_append_right _ le]
  have tail_a : ca.wordTail p.retyped = Text.takeLast p.retyped x :=
    Context.wordTail_eq (h.after.trans (by rw [pending])) _
  have same : ca.isAttached p.action = cb.isAttached p.action := by
    simp only [Context.isAttached, ca, cb, h.nextAttach_eq]
  -- what retypes the word asks to be attached, so an action that stands apart retypes nothing
  have apart_eq (apart : ¬(p.action.prevAttach || b.last.nextAttach) = true) :
      p.retyped = 0 ∧ b.last.separator = [' '] := by
    simp only [Bool.or_eq_true, not_or, Bool.not_eq_true] at apart
    refine ⟨Decidable.byContradiction fun some => ?_, by rw [Action.separator, apart.2]; rfl⟩
    exact Bool.false_ne_true (apart.1.symm.trans (attached some))
  have made_b := (puts.eq_put cb ⟨rfl, rfl⟩).trans (Context.put_before rfl ordinary.spaceChar)
  have made_a := (puts.eq_put ca ⟨rfl, h.last⟩).trans (Context.put_after rfl ordinary.spaceChar)
  rw [tail_b] at made_b
  rw [tail_a, same, pending] at made_a
  refine ⟨patched p b.last x, ?_⟩
  change Abreast lead _ (b.apply (k.action cb)) (a.apply (k.action ca))
  rw [made_b, made_a]
  exact
    { last := rfl
      before := by
        change Text.dropLast (Text.takeLast p.retyped x).length b.screen.text ++
          (if p.action.prevAttach || b.last.nextAttach then p.text else ' ' :: p.text) =
            lead ++ patched p b.last x
        rw [Text.length_takeLast le, h.before, Text.dropLast_append_right _ le, List.append_assoc,
          patched]
        split
        · rfl
        · next apart => rw [(apart_eq apart).1, Text.dropLast_zero]
      after := by
        change Text.dropLast (Text.takeLast p.retyped x ++
            if p.action.prevAttach || b.last.nextAttach then b.last.separator else []).length
              a.screen.text ++ (p.text ++ p.action.separator) =
            patched p b.last x ++ p.action.separator
        rw [h.after, patched]
        split
        · rw [List.length_append, Text.length_takeLast le, Text.dropLast_add_append,
            List.append_assoc]
        · next apart =>
          rw [List.append_nil, Text.length_takeLast le, (apart_eq apart).1, Text.dropLast_zero,
            (apart_eq apart).2, List.append_assoc, List.append_assoc]
          rfl
      separated := fun apart => Action.endsWith_separator (a := p.action) apart p.text
      word := length_word_le_patched puts.fits h.word
      ordinary := ⟨ordinary.upper, ordinary.upperCarry, ordinary.case, ordinary.spaceChar⟩ }

theorem abreast_first (capitalized attached : Bool) (o : Orthography) (k : Typing) :
    let start := Action.start capitalized attached
    let v : View := ⟨Screen.blank, start⟩
    ∃ x, Abreast (if k.attachesTo start || attached then [] else [' ']) x
      (v.type ⟨.before, o⟩ k) (v.type ⟨.after, o⟩ k) := by
  intro start v
  let cb : Context := ⟨⟨.before, o⟩, start, []⟩
  let ca : Context := ⟨⟨.after, o⟩, start, []⟩
  obtain ⟨p, puts, attaches⟩ := k.puts (c := cb) ⟨rfl, rfl, rfl, rfl⟩
  obtain ⟨ordinary, retyped, -, word⟩ := puts.fits
  have none_retyped : p.retyped = 0 := Nat.le_zero.1 retyped
  have pending : ca.pendingSeparator = [] := by
    simp [Context.pendingSeparator, ca, start, Action.start, Text.endsWith]
  have made_b := (puts.eq_put cb ⟨rfl, rfl⟩).trans (Context.put_before rfl ordinary.spaceChar)
  have made_a := (puts.eq_put ca ⟨rfl, rfl⟩).trans (Context.put_after rfl ordinary.spaceChar)
  rw [none_retyped, Context.wordTail_zero] at made_b made_a
  rw [pending, ite_self, List.append_nil] at made_a
  refine ⟨p.text, ?_⟩
  change Abreast _ _ (v.apply (k.action cb)) (v.apply (k.action ca))
  rw [made_b, made_a, ← attaches]
  exact
    { last := rfl
      before := by
        change (if p.action.prevAttach || attached then p.text else ' ' :: p.text) = _
        split <;> rfl
      after := rfl
      separated := fun apart => Action.endsWith_separator (a := p.action) apart p.text
      word := by
        rw [none_retyped] at word
        exact Nat.le_trans word (Nat.le_of_eq (Nat.zero_add _))
      ordinary := ⟨ordinary.upper, ordinary.upperCarry, ordinary.case, ordinary.spaceChar⟩ }

theorem Abreast.foldl_type {lead x : Text} {b a : View} (h : Abreast lead x b a) (o : Orthography)
    (ks : List Typing) :
    ∃ x', Abreast lead x' (ks.foldl (View.type ⟨.before, o⟩) b)
      (ks.foldl (View.type ⟨.after, o⟩) a) := by
  induction ks generalizing x b a with
  | nil => exact ⟨x, h⟩
  | cons k ks ih =>
    obtain ⟨x', here⟩ := h.type o k
    exact ih here

end View

/-- The first atom of the translation asks to be attached to the output of `last`. -/
def Translation.attachesTo (last : Action) (t : Translation) : Bool :=
  (t.typings.head?.map (Typing.attachesTo last)).getD false

theorem Translation.typings_ne_nil {t : Translation} (textual : t.isTextual = true) :
    t.typings ≠ [] := by
  cases english : t.english with
  | none => simp [typings, english]
  | some english' =>
    simp only [isTextual, english, Bool.and_eq_true, Bool.not_eq_true', List.isEmpty_eq_false_iff,
      List.all_eq_true] at textual
    obtain ⟨ink, all⟩ := textual
    obtain ⟨a, as, atoms⟩ := List.exists_cons_of_ne_nil ink
    obtain ⟨k, typing⟩ := Option.isSome_iff_exists.1 (all a (by rw [atoms]; exact List.mem_cons_self ..))
    simp [typings, english, atoms, typing]

theorem Base.abreast_of_textual (capitalized attached : Bool) (o : Orthography)
    {first : Translation} {rest : List Translation}
    (textual : ∀ t ∈ first :: rest, t.isTextual = true) :
    let start := Action.start capitalized attached
    let whole (p : SpacePlacement) := (first :: rest).foldl (add ⟨p, o⟩) (ofStart start)
    ∃ x, View.Abreast (if first.attachesTo start || attached then [] else [' ']) x
      ((whole .before).settle none) ((whole .after).settle none) := by
  intro start whole
  obtain ⟨k, ks, typings⟩ :=
    List.exists_cons_of_ne_nil (Translation.typings_ne_nil (textual first (List.mem_cons_self ..)))
  have shown (p : SpacePlacement) : (whole p).settle none =
      (ks ++ rest.flatMap Translation.typings).foldl (View.type ⟨p, o⟩)
        (View.type ⟨p, o⟩ ⟨Screen.blank, start⟩ k) := by
    simp only [whole, foldl_add_of_textual _ (show (ofStart start).tail = none from rfl) textual]
    rw [List.flatMap_cons, typings]
    rfl
  have asks : first.attachesTo start = k.attachesTo start := by
    rw [Translation.attachesTo, typings]
    rfl
  obtain ⟨x, here⟩ := View.abreast_first capitalized attached o k
  rw [shown, shown, asks]
  exact here.foldl_type o _

end Stenotype
