import Stenotype.Orthography.English
import Stenotype.Proofs.Ink

/-!
# What a match takes

A match only moves forward, so what a group takes at the end of an expression is the end of the text.
The suffix rules put that, or a letter of their own, at the end of what they make: a suffix that ends
in ink leaves a word that does.
-/

set_option autoImplicit false

namespace Stenotype

theorem Text.endsInInk_of_suffix {s t : Text} (h : t <:+ s) (ne : t ≠ [])
    (ink : endsInInk s = true) : endsInInk t = true := by
  obtain ⟨front, rfl⟩ := h
  obtain ⟨r, c, rfl⟩ := (List.eq_nil_or_concat t).resolve_left ne
  rw [List.concat_eq_append] at ink ⊢
  simpa [endsInInk, ← List.append_assoc] using ink

namespace Pattern

/-- From `c` on, at least `n` characters are used up on the way to `d`. -/
structure Cursor.Advances (n : Nat) (c d : Cursor) : Prop where
  suffix : d.after <:+ c.after
  length : d.after.length + n ≤ c.after.length

namespace Cursor.Advances
variable {m n : Nat} {c d e : Cursor}

theorem refl (c : Cursor) : Advances 0 c c := ⟨List.suffix_rfl, Nat.le_refl _⟩

theorem trans (h : Advances m c d) (h' : Advances n d e) : Advances (m + n) c e :=
  ⟨h'.suffix.trans h.suffix, by have := h.length; have := h'.length; omega⟩

theorem weaken (h : Advances n c d) (le : m ≤ n) : Advances m c d :=
  ⟨h.suffix, by have := h.length; omega⟩

end Cursor.Advances

namespace Regex

def Rounds (step : Cursor → Cursor → Prop) : Nat → Cursor → Cursor → Prop
  | 0, c, d => d = c
  | n + 1, c, d => ∃ e, step c e ∧ Rounds step n e d

/-- A match that starts at `c` can end at `d`, preferred or not. -/
def Reaches : Regex → Cursor → Cursor → Prop
  | empty, c, d => d = c
  | char s, c, d =>
    ∃ x r, c.after = x :: r ∧ s.mem x = true ∧ d = { c with before := x :: c.before, after := r }
  | anchor a, c, d => a.holds c = true ∧ d = c
  | seq r s, c, d => ∃ e, r.Reaches c e ∧ s.Reaches e d
  | alt r s, c, d => r.Reaches c d ∨ s.Reaches c d
  | group n r, c, d => ∃ e, r.Reaches c e ∧ d = c.record n e
  | rep r least most _, c, d =>
    ∃ n, least ≤ n ∧ (∀ m ∈ most, n ≤ least + (m - least)) ∧ Rounds r.Reaches n c d

def Hands {α : Type} (step : Cursor → Cursor → Prop) (round : Round α) : Prop :=
  ∀ c k x, round c k = some x → ∃ d, step c d ∧ k d = some x

theorem Rounds.trans {step : Cursor → Cursor → Prop} {m n : Nat} {c d e : Cursor}
    (h : Rounds step m c d) (h' : Rounds step n d e) : Rounds step (m + n) c e := by
  induction m generalizing c with
  | zero =>
    cases h
    rwa [Nat.zero_add]
  | succ m ih =>
    obtain ⟨b, first, later⟩ := h
    rw [Nat.succ_add]
    exact ⟨b, first, ih later⟩

theorem of_orElse {α : Type} {a : Option α} {b : Unit → Option α} {x : α}
    (h : a.orElse b = some x) : a = some x ∨ b () = some x := by
  cases a with
  | none => exact .inr h
  | some y => exact .inl h

theorem of_attempt {α : Type} {greedy : Bool} {more stop : Unit → Option α} {x : α}
    (h : attempt greedy more stop = some x) : more () = some x ∨ stop () = some x := by
  unfold attempt at h
  split at h
  · exact of_orElse h
  · exact (of_orElse h).symm

section rounds
variable {α : Type} {step : Cursor → Cursor → Prop} {round : Round α}

theorem hands_exactly (h : Hands step round) (m : Nat) :
    Hands (Rounds step m) (exactly round m) := by
  induction m with
  | zero => exact fun c k x found => ⟨c, rfl, found⟩
  | succ m ih =>
    intro c k x found
    obtain ⟨d, here, later⟩ := h c _ x found
    obtain ⟨e, rest, found⟩ := ih d k x later
    exact ⟨e, ⟨d, here, rest⟩, found⟩

theorem hands_upTo (h : Hands step round) (greedy : Bool) (m : Nat) :
    Hands (fun c d => ∃ n ≤ m, Rounds step n c d) (upTo round greedy m) := by
  induction m with
  | zero => exact fun c k x found => ⟨c, ⟨0, Nat.le_refl 0, rfl⟩, found⟩
  | succ m ih =>
    intro c k x found
    rcases of_attempt found with found | found
    · obtain ⟨d, here, later⟩ := h c _ x found
      obtain ⟨e, ⟨n, le, rest⟩, found⟩ := ih d k x later
      exact ⟨e, ⟨n + 1, Nat.succ_le_succ le, d, here, rest⟩, found⟩
    · exact ⟨c, ⟨0, Nat.zero_le _, rfl⟩, found⟩

theorem hands_further (h : Hands step round) (greedy : Bool) (m : Nat) :
    Hands (fun c d => ∃ n, Rounds step n c d) (further round greedy m) := by
  induction m with
  | zero => exact fun c k x found => ⟨c, ⟨0, rfl⟩, found⟩
  | succ m ih =>
    intro c k x found
    rcases of_attempt found with found | found
    · obtain ⟨d, here, later⟩ := h c _ x found
      obtain ⟨e, ⟨n, rest⟩, found⟩ := ih d k x (Option.ite_none_right_eq_some.1 later).2
      exact ⟨e, ⟨n + 1, d, here, rest⟩, found⟩
    · exact ⟨c, ⟨0, rfl⟩, found⟩

theorem hands_oneOrMore (h : Hands step round) (greedy : Bool) :
    Hands (fun c d => ∃ n, Rounds step (n + 1) c d) (oneOrMore round greedy) := by
  intro c k x found
  obtain ⟨d, here, later⟩ := h c _ x found
  split at later
  · obtain ⟨e, ⟨n, rest⟩, found⟩ := hands_further h greedy _ d k x later
    exact ⟨e, ⟨n, d, here, rest⟩, found⟩
  · exact ⟨d, ⟨0, d, here, rfl⟩, later⟩

theorem hands_rounds (h : Hands step round) (least : Nat) (most : Option Nat) (greedy : Bool) :
    Hands (fun c d => ∃ n, least ≤ n ∧ (∀ m ∈ most, n ≤ least + (m - least)) ∧ Rounds step n c d)
      (rounds round least most greedy) := by
  intro c k x found
  cases most with
  | some m =>
    obtain ⟨d, here, later⟩ := hands_exactly h least c _ x found
    obtain ⟨e, ⟨n, le, rest⟩, found⟩ := hands_upTo h greedy _ d k x later
    refine ⟨e, ⟨least + n, Nat.le_add_right _ _, fun l hl => ?_, here.trans rest⟩, found⟩
    cases hl
    exact Nat.add_le_add_left le least
  | none =>
    cases least with
    | zero =>
      rw [rounds] at found
      rcases of_attempt found with found | found
      · obtain ⟨d, ⟨n, here⟩, found⟩ := hands_oneOrMore h greedy c k x found
        exact ⟨d, ⟨n + 1, Nat.zero_le _, by simp, here⟩, found⟩
      · exact ⟨c, ⟨0, Nat.le_refl 0, by simp, rfl⟩, found⟩
    | succ least =>
      obtain ⟨d, here, later⟩ := hands_exactly h least c _ x found
      obtain ⟨e, ⟨n, rest⟩, found⟩ := hands_oneOrMore h greedy d k x later
      exact ⟨e, ⟨least + (n + 1), by omega, by simp, here.trans rest⟩, found⟩

end rounds

theorem hands_run {α : Type} (r : Regex) : Hands r.Reaches (run (α := α) r) := by
  induction r with
  | empty => exact fun c k x found => ⟨c, rfl, found⟩
  | char s =>
    intro c k x found
    cases after : c.after with
    | nil => simp [run, after] at found
    | cons a rest =>
      simp only [run, after, Option.ite_none_right_eq_some] at found
      exact ⟨_, ⟨a, rest, after, found.1, rfl⟩, found.2⟩
  | anchor a =>
    intro c k x found
    obtain ⟨holds, found⟩ := Option.ite_none_right_eq_some.1 found
    exact ⟨c, ⟨holds, rfl⟩, found⟩
  | seq r s ihr ihs =>
    intro c k x found
    obtain ⟨d, here, later⟩ := ihr c _ x found
    obtain ⟨e, rest, found⟩ := ihs d k x later
    exact ⟨e, ⟨d, here, rest⟩, found⟩
  | alt r s ihr ihs =>
    intro c k x found
    rcases of_orElse found with found | found
    · obtain ⟨d, here, found⟩ := ihr c k x found
      exact ⟨d, .inl here, found⟩
    · obtain ⟨d, here, found⟩ := ihs c k x found
      exact ⟨d, .inr here, found⟩
  | group n r ih =>
    intro c k x found
    obtain ⟨d, here, found⟩ := ih c _ x found
    exact ⟨c.record n d, ⟨d, here, rfl⟩, found⟩
  | rep r least most greedy ih => exact hands_rounds ih least most greedy

def leastLength : Regex → Nat
  | empty => 0
  | char _ => 1
  | anchor _ => 0
  | seq r s => r.leastLength + s.leastLength
  | alt r s => min r.leastLength s.leastLength
  | group _ r => r.leastLength
  | rep r least _ _ => least * r.leastLength

theorem Rounds.advances {step : Cursor → Cursor → Prop} {n : Nat}
    (each : ∀ c d : Cursor, step c d → c.Advances n d) {m : Nat} {c d : Cursor} (h : Rounds step m c d) :
    c.Advances (m * n) d := by
  induction m generalizing c with
  | zero =>
    cases h
    simpa using Cursor.Advances.refl _
  | succ m ih =>
    obtain ⟨e, first, later⟩ := h
    exact ((each c e first).trans (ih later)).weaken (by rw [Nat.succ_mul]; omega)

theorem Reaches.advances {r : Regex} {c d : Cursor} (h : r.Reaches c d) :
    c.Advances r.leastLength d := by
  induction r generalizing c d with
  | empty =>
    cases h
    exact .refl _
  | char s =>
    obtain ⟨x, rest, after, _, rfl⟩ := h
    refine ⟨?_, ?_⟩
    · rw [after]
      exact List.suffix_cons x rest
    · rw [after]
      exact Nat.le_refl _
  | anchor a =>
    obtain ⟨_, rfl⟩ := h
    exact .refl d
  | seq r s ihr ihs =>
    obtain ⟨e, first, later⟩ := h
    exact (ihr first).trans (ihs later)
  | alt r s ihr ihs =>
    rcases h with h | h
    · exact (ihr h).weaken (Nat.min_le_left _ _)
    · exact (ihs h).weaken (Nat.min_le_right _ _)
  | group n r ih =>
    obtain ⟨e, inside, rfl⟩ := h
    exact ⟨(ih inside).suffix, (ih inside).length⟩
  | rep r least most greedy ih =>
    obtain ⟨n, le, _, rounds⟩ := h
    exact (rounds.advances fun _ _ => ih).weaken (Nat.mul_le_mul_right _ le)

/-- The expression ends with group `n`, which takes something, at the end of the text. -/
def endsInGroup (n : Nat) : Regex → Bool
  | seq (group m r) (anchor .textEnd) => m == n && 0 < r.leastLength
  | seq _ s => s.endsInGroup n
  | _ => false

theorem Reaches.endsInGroup {n : Nat} {r : Regex} (ends : r.endsInGroup n = true) {c d : Cursor}
    (h : r.Reaches c d) : ∃ t, d.group? n = some t ∧ t <:+ c.after ∧ t ≠ [] := by
  fun_induction Regex.endsInGroup n r generalizing c with
  | case1 m r =>
    simp only [Bool.and_eq_true, beq_iff_eq, decide_eq_true_eq] at ends
    obtain ⟨rfl, takes⟩ := ends
    obtain ⟨_, ⟨e, inside, rfl⟩, at_end, rfl⟩ := h
    have nothing : e.after = [] := List.isEmpty_iff.1 at_end
    have span : c.span e = c.after := by
      rw [Cursor.span, nothing, List.length_nil, Nat.sub_zero, List.take_length]
    refine ⟨c.after, ?_, List.suffix_rfl, ?_⟩
    · simp [Cursor.group?, Cursor.record, span]
    · intro none
      have length := inside.advances.length
      rw [none, List.length_nil] at length
      omega
  | case2 r s _ ih =>
    obtain ⟨e, first, later⟩ := h
    obtain ⟨t, taken, suffix, ne⟩ := ih ends later
    exact ⟨t, taken, suffix.trans first.advances.suffix, ne⟩
  | case3 => cases ends

theorem reaches_of_matchAt {r : Regex} {c d : Cursor} (found : r.matchAt c = some d) :
    (group 0 r).Reaches c d := by
  obtain ⟨e, reaches, last⟩ := hands_run (group 0 r) c some d found
  exact Option.some.inj last ▸ reaches

theorem reaches_of_searchFrom {r : Regex} {before s : Text} {d : Cursor}
    (found : r.searchFrom before s = some d) :
    ∃ front back, s = front ++ back ∧ (group 0 r).Reaches ⟨front.reverse ++ before, back, []⟩ d := by
  induction s generalizing before with
  | nil => exact ⟨[], [], rfl, reaches_of_matchAt found⟩
  | cons a s ih =>
    rw [searchFrom] at found
    split at found
    · next e here =>
      cases found
      exact ⟨[], a :: s, rfl, reaches_of_matchAt here⟩
    · obtain ⟨front, back, whole, reaches⟩ := ih found
      refine ⟨a :: front, back, by rw [whole, List.cons_append], ?_⟩
      rwa [List.reverse_cons, List.append_assoc]

theorem group?_record_zero {n : Nat} (some_group : n ≠ 0) (c d : Cursor) :
    (c.record 0 d).group? n = d.group? n := by
  have other : (n == 0) = false := beq_eq_false_iff_ne.2 some_group
  rw [Cursor.group?, Cursor.record, List.lookup_cons, other]
  rfl

theorem search_endsInGroup {n : Nat} (some_group : n ≠ 0) {r : Regex} (ends : r.endsInGroup n = true)
    {s : Text} {d : Cursor} (found : r.search s = some d) :
    ∃ t, d.group? n = some t ∧ t <:+ s ∧ t ≠ [] := by
  obtain ⟨front, back, rfl, e, inside, rfl⟩ := reaches_of_searchFrom found
  rw [group?_record_zero some_group]
  obtain ⟨t, taken, suffix, ne⟩ := inside.endsInGroup ends
  exact ⟨t, taken, suffix.trans (List.suffix_append front back), ne⟩

end Regex

def endsWithInk (p : Pattern) : TemplatePart → Bool
  | .literal c => !Text.isBlank c
  | .group name => (Template.number? name).any fun n => n != 0 && p.program.regex.endsInGroup n

theorem endsInInk_expandMatch? {p : Pattern} {t : Template}
    (ends : t.getLast?.any p.endsWithInk = true) {s new : Text} (ink : Text.endsInInk s = true)
    (found : p.expandMatch? t s = some new) : Text.endsInInk new = true := by
  obtain ⟨d, here, rfl⟩ := Option.map_eq_some_iff.1 found
  obtain ⟨part, last, fine⟩ := (Option.any_eq_true ..).1 ends
  obtain ⟨front, rfl⟩ := List.getLast?_eq_some_iff.1 last
  rw [Template.expand, List.flatMap_append, List.flatMap_singleton]
  refine Text.endsInInk_append _ ?_
  cases part with
  | literal c => simpa [endsWithInk, Text.endsInInk] using fine
  | group name =>
    obtain ⟨n, number, fine⟩ := (Option.any_eq_true ..).1 fine
    simp only [Bool.and_eq_true, bne_iff_ne] at fine
    obtain ⟨t, taken, suffix, ne⟩ := Regex.search_endsInGroup fine.1 fine.2 here
    have text : p.groupText d name = t := by
      simp [groupText, number, taken]
    change Text.endsInInk (p.groupText d name) = true
    rw [text]
    exact Text.endsInInk_of_suffix suffix ne ink

end Pattern

namespace Orthography

/-- No rule puts a blank at the end of what it makes. -/
def keepsInk (o : Orthography) : Bool :=
  o.rules.all fun r => r.template.getLast?.any r.pattern.endsWithInk

theorem endsInInk_addSuffix {o : Orthography} (keeps : o.keepsInk = true) (word : Text)
    {suffix : Text} (ink : Text.endsInInk suffix = true) :
    Text.endsInInk (o.addSuffix word suffix) = true := by
  unfold addSuffix
  cases joined : o.rules.findSome? fun r => r.join? word suffix with
  | none => exact Text.endsInInk_append word ink
  | some new =>
    obtain ⟨r, hr, here⟩ := List.exists_of_findSome?_eq_some joined
    exact Pattern.endsInInk_expandMatch? (List.all_eq_true.1 keeps r hr)
      (Text.endsInInk_append _ ink) here

def spelledRule? (source template : Text) : Option SuffixRule :=
  (Pattern.ofSource? true source).map fun p =>
    ⟨p, template.map fun c => if c.isDigit then .group [c] else .literal c⟩

/-- Evaluation takes strings apart only slowly; a table is evaluated after its strings have been
spelled out with this lemma. -/
theorem ofTable_cons (source template : Text) (rows : List TableRow) :
    ofTable ((String.ofList source, String.ofList template) :: rows) =
      { rules := (spelledRule? source template).toList ++ (ofTable rows).rules } := by
  simp only [ofTable, List.filterMap_cons, templateOfRow, String.toList_ofList, spelledRule?]
  cases Pattern.ofSource? true source <;> rfl

theorem keepsInk_english : english.keepsInk = true := by
  unfold english englishTable
  repeat rw [ofTable_cons]
  decide +kernel

end Orthography
end Stenotype
