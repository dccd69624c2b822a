import Stenotype.Proofs.Stems

/-!
# The parts of a rule

Most suffix rules begin with a group for the stem; then comes what is dropped, the break, and what is
asked of the suffix. Such a rule joins a word and a suffix exactly if the word is a stem and something
to drop. The result is the template with the stem for its first group.
-/

set_option autoImplicit false

namespace Stenotype
namespace Pattern.Regex

/-- The expression of the stem, of what is dropped after it, and of what follows the break. -/
def parts? : Regex → Option (Regex × Regex × Regex)
  | seq (anchor .textStart) (seq (group 1 stem) rest) =>
    if 1 ∈ rest.groupNames then none
    else rest.splitBreak?.map fun (before, after) => (stem, before, after)
  | _ => none

theorem parts?_eq_some {r stem before after : Regex} (h : r.parts? = some (stem, before, after)) :
    ∃ rest, r = seq (anchor .textStart) (seq (group 1 stem) rest) ∧ 1 ∉ rest.groupNames ∧
      rest.splitBreak? = some (before, after) := by
  unfold parts? at h
  split at h
  · next rest =>
    obtain ⟨apart, h⟩ := Option.ite_none_left_eq_some.1 h
    obtain ⟨_, split, same⟩ := Option.map_eq_some_iff.1 h
    cases same
    exact ⟨rest, rfl, apart, split⟩
  · cases h

/-- Whatever the expression takes begins, and not with `c`. -/
def refuses (c : Char) : Regex → Bool
  | char s => !s.mem c
  | seq r _ => r.refuses c
  | alt r s => r.refuses c && s.refuses c
  | group _ r => r.refuses c
  | rep r (_ + 1) _ _ => r.refuses c
  | _ => false

theorem Takes.begins {c : Char} {r : Regex} (other : r.refuses c = true) {back u after : Text}
    (h : r.Takes back u after) : ∃ d v, u = d :: v ∧ d ≠ c := by
  induction r generalizing back u after with
  | empty => cases other
  | anchor a => cases other
  | char s =>
    obtain ⟨d, rfl, mem⟩ := h
    refine ⟨d, [], rfl, ?_⟩
    rintro rfl
    simp [refuses, mem] at other
  | seq r s ihr _ =>
    obtain ⟨v, w, rfl, first, -⟩ := h
    obtain ⟨d, v, rfl, ne⟩ := ihr other first
    exact ⟨d, v ++ w, rfl, ne⟩
  | alt r s ihr ihs =>
    obtain ⟨left, right⟩ := Bool.and_eq_true_iff.1 other
    exact h.elim (ihr left) (ihs right)
  | group n r ih => exact ih other h
  | rep r least most greedy ih =>
    cases least with
    | zero => cases other
    | succ least =>
      obtain ⟨n, le, -, rounds⟩ := h
      obtain ⟨n, rfl⟩ := Nat.exists_eq_add_of_le' (Nat.le_trans (Nat.le_add_left 1 least) le)
      obtain ⟨v, w, rfl, first, -⟩ := rounds
      obtain ⟨d, v, rfl, ne⟩ := ih other first
      exact ⟨d, v ++ w, rfl, ne⟩

end Pattern.Regex

namespace SuffixRule

open Pattern Regex

variable {r : SuffixRule} {stem before after : Regex} {word suffix : Text}

theorem parts_of_join? (parts : r.pattern.program.regex.parts? = some (stem, before, after))
    (plain : ' ' ∉ word) (plain' : '^' ∉ suffix) {new : Text}
    (joined : r.join? word suffix = some new) :
    ∃ u v group, word = u ++ v ∧ Parts stem before after [] u v suffix ∧
      (∀ m ∈ before.mostLength?, v.length ≤ m) ∧ group ['1'] = u ∧ new = r.template.expand group := by
  obtain ⟨d, found, rfl⟩ := Option.map_eq_some_iff.1 joined
  obtain ⟨front, back, whole, e, inside, rfl⟩ := reaches_of_searchFrom found
  obtain ⟨rest, expression, other, split⟩ := parts?_eq_some parts
  rw [expression] at inside
  obtain ⟨_, ⟨at_start, rfl⟩, later⟩ := inside
  obtain rfl : front = [] := by simpa using List.isEmpty_iff.1 at_start
  obtain ⟨u, v, suffix', text, here, taken, few, -⟩ := later.stem split other rfl
  obtain ⟨rfl, rfl⟩ := split_candidate plain plain' (whole.trans text)
  refine ⟨u, v, _, rfl, here, few, ?_, rfl⟩
  exact groupText_of_group? (n := 1) rfl ((group?_record_zero (by decide) _ e).trans taken)

theorem isSome_join? (parts : r.pattern.program.regex.parts? = some (stem, before, after)) {u v : Text}
    (h : Parts stem before after [] u v suffix) : (r.join? (u ++ v) suffix).isSome = true := by
  obtain ⟨rest, expression, -, split⟩ := parts?_eq_some parts
  obtain ⟨x, y, rfl, inRest⟩ := h.rest
  rw [join?, expandMatch?, Option.isSome_map, isSome_search_iff, expression]
  refine ⟨[], u ++ (v ++ (breakText ++ x)), y, by simp [candidate, breakText], [], _, rfl,
    ⟨rfl, rfl⟩, u, _, rfl, ?_, ?_⟩
  · simpa [Takes] using h.stem
  · exact takes_of_splitBreak split (by simpa using h.dropped) inRest

def refuses (c : Char) (r : SuffixRule) : Bool :=
  r.pattern.program.regex.parts?.any fun (_, _, after) => after.refuses c

theorem join?_eq_none_of_refuses {c : Char} (other : r.refuses c = true) (plain : ' ' ∉ word)
    (plain' : '^' ∉ c :: suffix) : r.join? word (c :: suffix) = none := by
  obtain ⟨⟨stem, before, after⟩, parts, other⟩ := (Option.any_eq_true ..).1 other
  by_contra joined
  obtain ⟨new, joined⟩ := Option.ne_none_iff_exists'.1 joined
  obtain ⟨u, v, group, -, here, -⟩ := parts_of_join? parts plain plain' joined
  obtain ⟨x, y, whole, takes⟩ := here.rest
  obtain ⟨d, x, rfl, ne⟩ := takes.begins other
  exact ne (List.cons.inj whole).1.symm

/-- Where the template adds text of its own to the stem, and what is dropped has a fixed length, the
result is told by the word alone. -/
theorem join?_eq_ite (parts : r.pattern.program.regex.parts? = some (stem, before, after)) {n : Nat}
    (fixed : ∀ back v rest, before.Takes back v rest → v.length = n) {made : Text}
    (template : r.template = .group ['1'] :: made.map .literal) (plain : ' ' ∉ word)
    (plain' : '^' ∉ suffix) {P : Prop} [Decidable P]
    (holds : Parts stem before after [] (Text.dropLast n word) (Text.takeLast n word) suffix ↔ P) :
    r.join? word suffix = if P then some (Text.dropLast n word ++ made) else none := by
  have only {new : Text} (joined : r.join? word suffix = some new) :
      P ∧ new = Text.dropLast n word ++ made := by
    obtain ⟨u, v, group, rfl, here, -, taken, rfl⟩ := parts_of_join? parts plain plain' joined
    have length := fixed _ _ _ here.dropped
    have front : Text.dropLast n (u ++ v) = u := length ▸ Text.dropLast_append_length u v
    have back : Text.takeLast n (u ++ v) = v := length ▸ Text.takeLast_append_length u v
    refine ⟨holds.1 (by rwa [front, back]), ?_⟩
    rw [template, Template.expand_group_cons, Template.expand_literals, taken, front]
  split
  · next meets =>
    have some := isSome_join? parts (holds.2 meets)
    rw [Text.dropLast_append_takeLast] at some
    obtain ⟨new, joined⟩ := Option.isSome_iff_exists.1 some
    rw [joined, (only joined).2]
  · next fails => exact Option.eq_none_iff_forall_ne_some.2 fun new joined => fails (only joined).1

end SuffixRule
end Stenotype
