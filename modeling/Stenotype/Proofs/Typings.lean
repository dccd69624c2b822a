import Stenotype.Proofs.Ending
import Stenotype.Proofs.AtomGrammar

/-!
# Where typings come from

What a typing types is part of the atom it is read from, and that part of the text of the
translation. A command in braces is one atom, and what it types is what stands between its marks.
-/

set_option autoImplicit false

namespace Stenotype

theorem Text.trimStart_subset (s : Text) : trimStart s ⊆ s := (List.dropWhile_sublist _).subset

theorem Text.trim_subset (s : Text) : trim s ⊆ s := by
  have front := trimEnd_prefix (trimStart s)
  exact List.Subset.trans front.subset (trimStart_subset s)

theorem Text.ink_head?_trim (s : Text) : ∀ c ∈ (trim s).head?, isBlank c = false := by
  intro c first
  obtain ⟨blanks, whole⟩ := trimEnd_prefix (trimStart s)
  have head : (s.dropWhile isBlank).head? = some c := by
    rw [← trimStart, ← whole, List.head?_append]
    exact Option.or_of_isSome (Option.isSome_of_mem first) |>.trans first
  have dark := List.head?_dropWhile_not isBlank s
  rw [head] at dark
  simpa using dark

namespace Atom

theorem subset_of_mem_split {s a : Text} (h : a ∈ split s) : a ⊆ s := by
  fun_induction split s with
  | case1 => simp at h
  | case2 r m rest closed ih =>
    have all := closeMeta?_append closed
    rcases List.mem_cons.1 h with rfl | h
    · rw [all]
      exact List.cons_subset_cons _ (List.subset_append_left m rest)
    · rw [all]
      exact fun c mem => List.mem_cons_of_mem _ (List.mem_append_right m (ih h mem))
  | case3 r _ ih => exact List.subset_cons_of_subset _ (ih h)
  | case4 r _ ih => exact List.subset_cons_of_subset _ (ih h)
  | case5 c r _ _ ih =>
    have all := takeText_append (c :: r)
    rcases List.mem_cons.1 h with rfl | h
    · exact fun d mem => all ▸ List.mem_append_left _ mem
    · exact fun d mem => all ▸ List.mem_append_right _ (ih h mem)

theorem mem_trimmed {english a : Text} (h : a ∈ trimmed english) :
    ∃ raw ∈ split english, a = Text.trim raw ∧ a ≠ [] := by
  simp only [trimmed, List.mem_filter, List.mem_map, Bool.not_eq_true', List.isEmpty_eq_false_iff] at h
  obtain ⟨⟨raw, mem, rfl⟩, ne⟩ := h
  exact ⟨raw, mem, rfl, ne⟩

theorem subset_of_mem_trimmed {english a : Text} (h : a ∈ trimmed english) : a ⊆ english := by
  obtain ⟨raw, mem, rfl, _⟩ := mem_trimmed h
  exact List.Subset.trans (Text.trim_subset raw) (subset_of_mem_split mem)

theorem meta?_eq_some_iff {a s : Text} : meta? a = some s ↔ a = '\x7b' :: (s ++ ['\x7d']) := by
  unfold meta?
  split
  · rw [Text.beforeEnd?_eq_some_iff, List.cons.injEq, eq_self, true_and]
  · next other =>
    constructor
    · intro h
      cases h
    · rintro rfl
      exact absurd rfl (other _)

theorem unescapeBrace_subset (brace : Char) (s : Text) : unescapeBrace brace s ⊆ s := by
  fun_induction unescapeBrace brace s with
  | case1 => exact List.Subset.refl _
  | case2 r ih => exact List.subset_cons_of_subset _ (List.cons_subset_cons _ ih)
  | case3 c r _ ih => exact List.cons_subset_cons _ ih
  | case4 c r _ ih => exact List.cons_subset_cons _ ih

theorem unescape_subset (s : Text) : unescape s ⊆ s :=
  List.Subset.trans (unescapeBrace_subset _ _) (unescapeBrace_subset _ _)

theorem startsInInk_unescapeBrace {brace : Char} (ink : Text.isBlank brace = false) {s : Text}
    (start : ∀ c ∈ s.head?, Text.isBlank c = false) :
    ∀ c ∈ (unescapeBrace brace s).head?, Text.isBlank c = false := by
  unfold unescapeBrace
  split
  · simp
  · next c r =>
    split
    · simpa using ink
    · simp [show Text.isBlank '\\' = false by decide]
  · next c r _ => simpa using start

theorem endsInInk_unescapeBrace {brace : Char} (ink : Text.isBlank brace = false) {s : Text}
    (ends : Text.endsInInk s = true) : Text.endsInInk (unescapeBrace brace s) = true := by
  have front {c : Char} {r : Text} (dark : Text.isBlank c = false)
      (rest : r = [] ∨ Text.endsInInk r = true) : Text.endsInInk (c :: r) = true := by
    rcases rest with rfl | rest
    · exact Text.endsInInk_of_ink (List.cons_ne_nil _ _) (by simpa using dark)
    · exact Text.endsInInk_append [c] rest
  have tail {c : Char} {r : Text} (ends : Text.endsInInk (c :: r) = true) :
      r = [] ∨ Text.endsInInk r = true := by
    cases r with
    | nil => exact .inl rfl
    | cons d r => exact .inr (by simpa [Text.endsInInk] using ends)
  fun_induction unescapeBrace brace s with
  | case1 => exact ends
  | case2 r ih =>
    refine front ink ?_
    rcases tail (tail ends |>.resolve_left (List.cons_ne_nil _ _)) with rfl | rest
    · exact .inl rfl
    · exact .inr (ih rest)
  | case3 c r _ ih =>
    exact front (by decide) (.inr (ih ((tail ends).resolve_left (List.cons_ne_nil _ _))))
  | case4 c r _ ih =>
    rcases tail ends with rfl | rest
    · exact ends
    · exact Text.endsInInk_append [c] (ih rest)

theorem ink_unescape {english a : Text} (h : a ∈ trimmed english) :
    (∀ c ∈ (unescape a).head?, Text.isBlank c = false) ∧ Text.endsInInk (unescape a) = true := by
  obtain ⟨raw, _, rfl, ne⟩ := mem_trimmed h
  have ends : Text.endsInInk (Text.trim raw) = true :=
    (Text.endsInInk_trimEnd (Text.trimStart raw)).resolve_left ne
  have opening : Text.isBlank '\x7b' = false := by decide
  have closing : Text.isBlank '\x7d' = false := by decide
  exact ⟨startsInInk_unescapeBrace closing
      (startsInInk_unescapeBrace opening (Text.ink_head?_trim raw)),
    endsInInk_unescapeBrace closing (endsInInk_unescapeBrace opening ends)⟩

theorem meta?_braced (s : Text) : meta? ('\x7b' :: (s ++ ['\x7d'])) = some s :=
  meta?_eq_some_iff.2 rfl

end Atom

namespace Affix

theorem cutEnd_subset (s : Text) : (cutEnd s).2 ⊆ s := by
  unfold cutEnd
  split
  · next r cut =>
    rw [Text.beforeEnd?_eq_some_iff.1 cut]
    exact List.subset_append_left r _
  · exact List.Subset.refl s

theorem content_subset (s : Text) : (ofText s).content ⊆ s := by
  unfold ofText
  split
  · exact List.subset_cons_of_subset _ (cutEnd_subset _)
  · exact cutEnd_subset _

end Affix

namespace Typing

def text : Typing → Text
  | plain s => s
  | glued s => s
  | stop mark => mark
  | comma mark => mark
  | affix s => s

/-- A mark is one of those that are written in braces. -/
def IsWritten : Typing → Prop
  | stop mark => mark ∈ [['.'], ['!'], ['?']]
  | comma mark => mark ∈ [[','], [':'], [';']]
  | affix s => s.head? = some '^' ∨ s.getLast? = some '^'
  | _ => True

theorem orElse_eq_some {α : Type} {a b : Option α} {x : α} (h : (a <|> b) = some x) :
    a = some x ∨ b = some x := by
  cases a with
  | none => exact .inr h
  | some y => exact .inl h

theorem of_ofText? {s : Text} {command : Command} {k : Typing}
    (named : Command.ofText? s = some command) (typing : ofCommand? command = some k) :
    k.text ⊆ s ∧ k.IsWritten := by
  rcases orElse_eq_some named with h | named
  · unfold Command.fixed? at h
    split at h <;> cases h <;> cases typing <;> simp [text, IsWritten]
  rcases orElse_eq_some named with h | named
  · unfold Command.currency? at h
    split at h
    · obtain ⟨form, _, rfl⟩ := Option.map_eq_some_iff.1 h
      cases typing
    · cases h
  rcases orElse_eq_some named with h | named
  · obtain ⟨name, _, rfl⟩ := Option.map_eq_some_iff.1 h
    cases typing
  rcases orElse_eq_some named with h | named
  · obtain ⟨name, _, rfl⟩ := Option.map_eq_some_iff.1 h
    cases typing
  rcases orElse_eq_some named with h | named
  · unfold Command.combo? at h
    split at h <;> cases h
    cases typing
  rcases orElse_eq_some named with h | named
  · unfold Command.conditional? at h
    split at h <;> cases h <;> cases typing
  rcases orElse_eq_some named with h | named
  · unfold Command.glue? at h
    split at h <;> cases h
    cases typing
    exact ⟨List.subset_cons_self _ _, trivial⟩
  rcases orElse_eq_some named with h | h
  · unfold Command.carry? at h
    split at h <;> cases h <;> cases typing
  · unfold Command.attach? at h
    split at h
    · next marked =>
      cases h
      cases typing
      exact ⟨List.Subset.refl s, by simpa [IsWritten] using marked⟩
    · cases h

theorem of_ofAtom? {atom : Text} {k : Typing} (typing : ofAtom? atom = some k) :
    k.text ⊆ atom ∧ k.IsWritten := by
  unfold ofAtom? at typing
  split at typing
  · cases typing
    exact ⟨Atom.unescape_subset atom, trivial⟩
  · next s inside =>
    have part : s ⊆ atom := by
      rw [Atom.meta?_eq_some_iff.1 inside]
      exact List.subset_cons_of_subset _ (List.subset_append_left s _)
    have part := List.Subset.trans (Atom.unescape_subset s) part
    unfold ofMeta? at typing
    split at typing
    · cases typing
      exact ⟨part, trivial⟩
    · next command named =>
      obtain ⟨sub, written⟩ := of_ofText? named typing
      exact ⟨List.Subset.trans sub part, written⟩

end Typing

theorem Translation.of_mem_typings {t : Translation} {k : Typing} (mem : k ∈ t.typings) :
    k.text ⊆ t.english.getD t.outline ∧ k.IsWritten := by
  unfold typings at mem
  split at mem
  · next raw =>
    rw [List.mem_singleton.1 mem, raw, Option.getD_none, Typing.ofOutline]
    split
    · refine ⟨fun c here => ?_, trivial⟩
      obtain ⟨d, found, image⟩ := List.mem_flatMap.1 here
      split at image
      · cases image
      · rwa [List.mem_singleton.1 image]
    · exact ⟨List.Subset.refl _, trivial⟩
  · next english text =>
    obtain ⟨atom, among, typing⟩ := List.mem_filterMap.1 mem
    obtain ⟨sub, written⟩ := Typing.of_ofAtom? typing
    rw [text, Option.getD_some]
    exact ⟨List.Subset.trans sub (Atom.subset_of_mem_trimmed among), written⟩

end Stenotype
