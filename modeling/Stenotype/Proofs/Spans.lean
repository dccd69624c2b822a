import Mathlib.Data.Option.NAry
import Stenotype.Proofs.Matching

/-!
# What groups take

A match uses up a stretch of the text, and what its groups take lies in it. How long the stretch can
be is read off the expression, as far as it repeats nothing without a bound. So a suffix rule makes
its result of characters that it found or brings along.
-/

set_option autoImplicit false

namespace Stenotype
namespace Pattern

/-- From `c` to `d` some text is used up, at most `most` characters if that is given, and groups of
`names` take parts of it. -/
def Cursor.Passes (names : List Nat) (most : Option Nat) (c d : Cursor) : Prop :=
  ∃ u new, c.after = u ++ d.after ∧ d.groups = new ++ c.groups ∧ (∀ n ∈ most, u.length ≤ n) ∧
    ∀ g ∈ new, g.1 ∈ names ∧ g.2 ⊆ u

namespace Cursor.Passes
variable {names names' : List Nat} {m n : Option Nat} {c d e : Cursor}

theorem refl (names : List Nat) (c : Cursor) : Passes names (some 0) c c :=
  ⟨[], [], rfl, rfl, by simp, by simp⟩

theorem trans (h : Passes names m c d) (h' : Passes names n d e) :
    Passes names (Option.map₂ (· + ·) m n) c e := by
  obtain ⟨u, new, text, groups, bound, taken⟩ := h
  obtain ⟨u', new', text', groups', bound', taken'⟩ := h'
  refine ⟨u ++ u', new' ++ new, by rw [text, text', List.append_assoc],
    by rw [groups', groups, List.append_assoc], ?_, ?_⟩
  · intro l hl
    obtain ⟨a, b, ha, hb, rfl⟩ := Option.mem_map₂_iff.1 hl
    rw [List.length_append]
    exact Nat.add_le_add (bound a ha) (bound' b hb)
  · intro g mem
    rcases List.mem_append.1 mem with late | early
    · exact ⟨(taken' g late).1, List.subset_append_of_subset_right _ (taken' g late).2⟩
    · exact ⟨(taken g early).1, List.subset_append_of_subset_left _ (taken g early).2⟩

theorem weaken (h : Passes names m c d) (sub : names ⊆ names') (le : ∀ l ∈ n, ∃ k ∈ m, k ≤ l) :
    Passes names' n c d := by
  obtain ⟨u, new, text, groups, bound, taken⟩ := h
  refine ⟨u, new, text, groups, fun l hl => ?_, fun g mem => ⟨sub (taken g mem).1, (taken g mem).2⟩⟩
  obtain ⟨k, hk, below⟩ := le l hl
  exact Nat.le_trans (bound k hk) below

end Cursor.Passes

namespace Regex

def groupNames : Regex → List Nat
  | empty => []
  | char _ => []
  | anchor _ => []
  | seq r s => r.groupNames ++ s.groupNames
  | alt r s => r.groupNames ++ s.groupNames
  | group n r => n :: r.groupNames
  | rep r _ _ _ => r.groupNames

def mostLength? : Regex → Option Nat
  | empty => some 0
  | char _ => some 1
  | anchor _ => some 0
  | seq r s => Option.map₂ (· + ·) r.mostLength? s.mostLength?
  | alt r s => Option.map₂ max r.mostLength? s.mostLength?
  | group _ r => r.mostLength?
  | rep r least most _ => most.bind fun m => r.mostLength?.map ((least + (m - least)) * ·)

theorem Rounds.passes {step : Cursor → Cursor → Prop} {names : List Nat} {most : Option Nat}
    (each : ∀ c d : Cursor, step c d → c.Passes names most d) {n : Nat} {c d : Cursor}
    (h : Rounds step n c d) : c.Passes names (most.map (n * ·)) d := by
  induction n generalizing c with
  | zero =>
    cases h
    refine (Cursor.Passes.refl names d).weaken (List.Subset.refl _) ?_
    simp
  | succ n ih =>
    obtain ⟨e, first, later⟩ := h
    refine ((each c e first).trans (ih later)).weaken (List.Subset.refl _) ?_
    cases most with
    | none => simp
    | some m => simp [Nat.succ_mul, Nat.add_comm]

theorem span_of_append {c d : Cursor} {u : Text} (text : c.after = u ++ d.after) : c.span d = u := by
  rw [Cursor.span, text, List.length_append, Nat.add_sub_cancel, List.take_left]

theorem Reaches.passes {r : Regex} {c d : Cursor} (h : r.Reaches c d) :
    c.Passes r.groupNames r.mostLength? d := by
  induction r generalizing c d with
  | empty =>
    cases h
    exact .refl _ _
  | char s =>
    obtain ⟨x, rest, after, _, rfl⟩ := h
    exact ⟨[x], [], after, rfl, by simp [mostLength?], by simp⟩
  | anchor a =>
    obtain ⟨_, rfl⟩ := h
    exact .refl _ d
  | seq r s ihr ihs =>
    obtain ⟨e, first, later⟩ := h
    have here := (ihr first).weaken (List.subset_append_left r.groupNames s.groupNames)
      fun l hl => ⟨l, hl, Nat.le_refl l⟩
    have rest := (ihs later).weaken (List.subset_append_right r.groupNames s.groupNames)
      fun l hl => ⟨l, hl, Nat.le_refl l⟩
    exact here.trans rest
  | alt r s ihr ihs =>
    rcases h with h | h
    · refine (ihr h).weaken (List.subset_append_left ..) fun l hl => ?_
      obtain ⟨a, b, ha, _, rfl⟩ := Option.mem_map₂_iff.1 hl
      exact ⟨a, ha, Nat.le_max_left a b⟩
    · refine (ihs h).weaken (List.subset_append_right ..) fun l hl => ?_
      obtain ⟨a, b, _, hb, rfl⟩ := Option.mem_map₂_iff.1 hl
      exact ⟨b, hb, Nat.le_max_right a b⟩
  | group n r ih =>
    obtain ⟨e, inside, rfl⟩ := h
    obtain ⟨u, new, text, groups, bound, taken⟩ := ih inside
    -- the group takes all that was used up, and the groups inside it parts of that
    refine ⟨u, (n, u) :: new, text, ?_, bound, ?_⟩
    · rw [Cursor.record, span_of_append text, groups]
      rfl
    · refine List.forall_mem_cons.2 ⟨⟨List.mem_cons_self .., List.Subset.refl u⟩, fun g mem => ?_⟩
      exact ⟨List.mem_cons_of_mem n (taken g mem).1, (taken g mem).2⟩
  | rep r least most greedy ih =>
    obtain ⟨n, _, within, rounds⟩ := h
    refine (rounds.passes fun _ _ => ih).weaken (List.Subset.refl _) fun l hl => ?_
    obtain ⟨m, hm, longest⟩ := Option.bind_eq_some_iff.1 hl
    obtain ⟨one, bound, rfl⟩ := Option.map_eq_some_iff.1 longest
    exact ⟨n * one, by simp [bound], Nat.mul_le_mul_right one (within m hm)⟩

theorem groups_search {r : Regex} {s : Text} {d : Cursor} (found : r.search s = some d) :
    ∀ g ∈ d.groups, g.2 ⊆ s := by
  obtain ⟨front, back, rfl, reaches⟩ := reaches_of_searchFrom found
  obtain ⟨u, new, text, groups, _, taken⟩ := reaches.passes
  rw [groups, List.append_nil]
  intro g mem
  change back = _ at text
  rw [text]
  exact List.subset_append_of_subset_right _ (List.subset_append_of_subset_left _ (taken g mem).2)

end Regex

def Template.literals (t : Template) : Text :=
  t.filterMap fun
    | .literal c => some c
    | .group _ => none

theorem Cursor.mem_groups_of_group? {d : Cursor} {n : Nat} {t : Text} (taken : d.group? n = some t) :
    (n, t) ∈ d.groups := by
  obtain ⟨front, back, split, _⟩ := List.lookup_eq_some_iff.1 taken
  rw [split]
  simp

theorem mem_expand {group : Text → Text} {t : Template} {c : Char} (mem : c ∈ t.expand group) :
    c ∈ t.literals ∨ ∃ name, .group name ∈ t ∧ c ∈ group name := by
  obtain ⟨part, in_template, made⟩ := List.mem_flatMap.1 mem
  cases part with
  | literal l =>
    rw [List.mem_singleton.1 made]
    exact .inl (List.mem_filterMap.2 ⟨.literal l, in_template, rfl⟩)
  | group name => exact .inr ⟨name, in_template, made⟩

theorem mem_expandMatch? {p : Pattern} {t : Template} {s new : Text}
    (found : p.expandMatch? t s = some new) : ∀ c ∈ new, c ∈ t.literals ∨ c ∈ s := by
  obtain ⟨d, here, rfl⟩ := Option.map_eq_some_iff.1 found
  intro c mem
  refine (mem_expand mem).imp_right fun ⟨name, _, made⟩ => ?_
  have numbered : ∃ n : Option Nat, p.groupText d name = (n.bind d.group?).getD [] := ⟨_, rfl⟩
  obtain ⟨n, text⟩ := numbered
  rw [text] at made
  cases taken : n.bind d.group? with
  | none => simp [taken] at made
  | some u =>
    simp only [taken, Option.getD_some] at made
    obtain ⟨n, _, group⟩ := Option.bind_eq_some_iff.1 taken
    exact Regex.groups_search here _ (Cursor.mem_groups_of_group? group) made

end Pattern

namespace Orthography

/-- What the rules bring along is in a set of characters that the word and the suffix are in, which
has the separators of a candidate. -/
theorem mem_addSuffix {o : Orthography} {good : Char → Prop}
    (literals : ∀ r ∈ o.rules, ∀ c ∈ r.template.literals, good c) (separators : good ' ' ∧ good '^')
    {word suffix : Text} (fits : ∀ c ∈ word, good c) (fits' : ∀ c ∈ suffix, good c) :
    ∀ c ∈ o.addSuffix word suffix, good c := by
  have candidate : ∀ c ∈ SuffixRule.candidate word suffix, good c := by
    intro c mem
    simp only [SuffixRule.candidate, List.mem_append, List.mem_cons, List.not_mem_nil, or_false] at mem
    rcases mem with (mem | rfl | rfl | rfl) | mem
    · exact fits c mem
    · exact separators.1
    · exact separators.2
    · exact separators.1
    · exact fits' c mem
  unfold addSuffix
  cases joined : o.rules.findSome? fun r => r.join? word suffix with
  | none => exact fun c mem => (List.mem_append.1 mem).elim (fits c) (fits' c)
  | some new =>
    obtain ⟨r, hr, here⟩ := List.exists_of_findSome?_eq_some joined
    intro c mem
    rcases Pattern.mem_expandMatch? here c mem with literal | found
    · exact literals r hr c literal
    · exact candidate c found

theorem of_mem_ofTable {rows : List TableRow} {r : SuffixRule} (h : r ∈ (ofTable rows).rules) :
    ∃ row ∈ rows, Pattern.ofSource? true row.1.toList = some r.pattern ∧
      r.template = templateOfRow row.2 := by
  obtain ⟨row, mem, here⟩ := List.mem_filterMap.1 h
  obtain ⟨p, read, rfl⟩ := Option.map_eq_some_iff.1 here
  exact ⟨row, mem, read, rfl⟩

theorem literals_english {r : SuffixRule} (h : r ∈ english.rules) :
    ∀ c ∈ r.template.literals, c.isLower = true := by
  have rows : (englishTable.all fun row => (templateOfRow row.2).literals.all Char.isLower) = true := by
    decide +kernel
  obtain ⟨row, mem, _, template⟩ := of_mem_ofTable h
  rw [template]
  exact List.all_eq_true.1 (List.all_eq_true.1 rows row mem)

end Orthography
end Stenotype
