import Stenotype.Proofs.Ink
import Stenotype.Proofs.PlainWord

/-!
# Words and the blanks after them

A text falls into blanks and then words, each with the blanks after it. Commands that look back find
the last word so, and what stands before and after it.
-/

set_option autoImplicit false

namespace Stenotype

namespace Text

theorem words_of_blank {c : Char} (blank : isBlank c = true) (s : Text) :
    words (c :: s) = words s := by
  rw [words.eq_def]
  simp [blank]

theorem words_of_ink_blank {c d : Char} (ink : isBlank c = false) (blank : isBlank d = true)
    (s : Text) : words (c :: d :: s) = [c] :: words (d :: s) := by
  rw [words, if_neg (by simp [ink]), if_pos blank]

theorem words_of_ink_ink {c d : Char} (ink : isBlank c = false) (ink' : isBlank d = false) (s : Text) :
    ∃ w ws, words (d :: s) = w :: ws ∧ words (c :: d :: s) = (c :: w) :: ws := by
  cases rest : words (d :: s) with
  | nil =>
    have blank := (words_eq_nil_iff _).1 rest
    simp [isAllBlank, ink'] at blank
  | cons w ws =>
    refine ⟨w, ws, rfl, ?_⟩
    rw [words, if_neg (by simp [ink]), if_neg (by simp [ink']), rest]

theorem words_append_of_blank {b : Char} (blank : isBlank b = true) (s t : Text) :
    words (s ++ b :: t) = words s ++ words t := by
  induction s with
  | nil => exact words_of_blank blank t
  | cons c r ih =>
    cases here : isBlank c with
    | true => rw [List.cons_append, words_of_blank here, words_of_blank here, ih]
    | false =>
      cases r with
      | nil =>
        rw [List.singleton_append, words_of_ink_blank here blank, words_of_blank blank]
        simp [words, here]
      | cons d r =>
        cases next : isBlank d with
        | true =>
          rw [List.cons_append, List.cons_append, words_of_ink_blank here next,
            words_of_ink_blank here next, ← List.cons_append, ih, List.cons_append]
        | false =>
          -- The first words of both sides grow by the same character.
          obtain ⟨w, ws, word, longer⟩ := words_of_ink_ink here next r
          obtain ⟨w', ws', word', longer'⟩ := words_of_ink_ink here next (r ++ b :: t)
          rw [List.cons_append, word', word, List.cons_append] at ih
          obtain ⟨rfl, rfl⟩ := List.cons.inj ih
          rw [List.cons_append, List.cons_append, longer', longer, List.cons_append]

/-- The text is `head`, its last word and the blanks after it. -/
structure IsLastWord (head word tail : Text) : Prop where
  apart : ∀ c ∈ head.getLast?, isBlank c = true
  ne : word ≠ []
  ink : ∀ c ∈ word, isBlank c = false
  blank : ∀ c ∈ tail, isBlank c = true

theorem IsLastWord.words_eq {head word tail : Text} (h : IsLastWord head word tail) :
    words (head ++ word ++ tail) = words head ++ [word] := by
  have front : words (head ++ word) = words head ++ [word] := by
    rcases List.eq_nil_or_concat head with rfl | ⟨r, b, rfl⟩
    · exact words_of_no_blank h.ink h.ne
    · have blank : isBlank b = true := h.apart b (by simp)
      rw [List.concat_eq_append, List.append_assoc, List.singleton_append,
        words_append_of_blank blank, words_append_of_blank blank, words_of_no_blank h.ink h.ne, words,
        List.append_nil]
  cases blanks : tail with
  | nil => rw [List.append_nil, front]
  | cons b r =>
    obtain ⟨blank, others⟩ := List.forall_mem_cons.1 (blanks ▸ h.blank)
    have none := (words_eq_nil_iff r).2 (List.all_eq_true.2 others)
    rw [words_append_of_blank blank, front, none, List.append_nil]

theorem IsLastWord.trailingBlanks_eq {head word tail : Text} (h : IsLastWord head word tail) :
    trailingBlanks (head ++ word ++ tail) = tail :=
  trailingBlanks_append (.inr (endsInInk_append head (endsInInk_of_ink h.ne h.ink))) h.blank

theorem IsLastWord.trimEnd_eq {head word tail : Text} (h : IsLastWord head word tail) :
    trimEnd (head ++ word ++ tail) = head ++ word := by
  have parts := trimEnd_append_trailingBlanks (head ++ word ++ tail)
  rw [h.trailingBlanks_eq] at parts
  exact List.append_cancel_right parts

theorem trimEnd_eq_nil {s : Text} (blank : ∀ c ∈ s, isBlank c = true) : trimEnd s = [] := by
  have parts := trimEnd_append_trailingBlanks s
  have all : trailingBlanks s = s := trailingBlanks_append (s := []) (.inl rfl) blank
  rwa [all, List.append_left_eq_self] at parts

def spread (ws : List (Text × Text)) : Text := ws.flatMap fun w => w.1 ++ w.2

theorem spread_concat (ws : List (Text × Text)) (w : Text × Text) :
    spread (ws ++ [w]) = spread ws ++ w.1 ++ w.2 := by
  rw [spread, List.flatMap_append, List.flatMap_singleton, ← spread, List.append_assoc]

/-- The text is the blanks `lead` and then words, each with the blanks after it; only after the last
word there need be none. -/
structure FallsInto (s lead : Text) (ws : List (Text × Text)) : Prop where
  whole : s = lead ++ spread ws
  leadBlank : ∀ c ∈ lead, isBlank c = true
  ink : ∀ w ∈ ws, w.1 ≠ [] ∧ ∀ c ∈ w.1, isBlank c = false
  blank : ∀ w ∈ ws, ∀ c ∈ w.2, isBlank c = true
  apart : ∀ w ∈ ws.dropLast, w.2 ≠ []

theorem exists_fallsInto (s : Text) : ∃ lead ws, s.FallsInto lead ws := by
  induction s with
  | nil => exact ⟨[], [], rfl, by simp, by simp, by simp, by simp⟩
  | cons c r ih =>
    obtain ⟨lead, ws, rfl, leadBlank, ink, blank, apart⟩ := ih
    by_cases here : isBlank c = true
    · exact ⟨c :: lead, ws, rfl, List.forall_mem_cons.2 ⟨here, leadBlank⟩, ink, blank, apart⟩
    have dark : ∀ d ∈ [c], isBlank d = false := by simpa using here
    -- The character begins the first word, or is a word of its own if there are blanks after it.
    cases lead with
    | cons b lead =>
      refine ⟨[], ([c], b :: lead) :: ws, rfl, by simp, ?_, ?_, ?_⟩
      · exact List.forall_mem_cons.2 ⟨⟨List.cons_ne_nil c [], dark⟩, ink⟩
      · exact List.forall_mem_cons.2 ⟨leadBlank, blank⟩
      · cases ws with
        | nil => simp
        | cons w ws => exact List.forall_mem_cons.2 ⟨List.cons_ne_nil b lead, apart⟩
    | nil =>
      cases ws with
      | nil =>
        refine ⟨[], [([c], [])], rfl, by simp, ?_, by simp, by simp⟩
        simpa using here
      | cons w ws =>
        obtain ⟨inkFirst, inkRest⟩ := List.forall_mem_cons.1 ink
        refine ⟨[], (c :: w.1, w.2) :: ws, rfl, by simp, ?_, ?_, ?_⟩
        · refine List.forall_mem_cons.2 ⟨⟨List.cons_ne_nil c w.1, ?_⟩, inkRest⟩
          exact List.forall_mem_cons.2 ⟨by simpa using here, inkFirst.2⟩
        · exact List.forall_mem_cons.2 (List.forall_mem_cons.1 blank)
        · cases ws with
          | nil => simp
          | cons v ws => exact List.forall_mem_cons.2 (List.forall_mem_cons.1 apart)

namespace FallsInto
variable {s lead : Text} {front : List (Text × Text)} {w : Text × Text}

theorem init (h : s.FallsInto lead (front ++ [w])) : (lead ++ spread front).FallsInto lead front where
  whole := rfl
  leadBlank := h.leadBlank
  ink v mem := h.ink v (List.mem_append_left _ mem)
  blank v mem := h.blank v (List.mem_append_left _ mem)
  apart v mem := h.apart v (by
    rw [List.dropLast_concat]
    exact List.dropLast_subset _ mem)

theorem isLastWord (h : s.FallsInto lead (front ++ [w])) :
    IsLastWord (lead ++ spread front) w.1 w.2 := by
  have mem : w ∈ front ++ [w] := List.mem_append_right _ (List.mem_singleton_self w)
  refine ⟨fun c last => ?_, (h.ink w mem).1, (h.ink w mem).2, h.blank w mem⟩
  rcases List.eq_nil_or_concat front with rfl | ⟨before, v, rfl⟩
  · rw [spread, List.flatMap_nil, List.append_nil] at last
    exact h.leadBlank c (List.mem_of_getLast? last)
  · rw [List.concat_eq_append] at h last
    have mem' : v ∈ before ++ [v] := List.mem_append_right _ (List.mem_singleton_self v)
    have some_blank : v.2 ≠ [] := h.apart v (by rwa [List.dropLast_concat])
    rw [spread_concat, ← List.append_assoc, List.getLast?_append_of_ne_nil _ some_blank] at last
    exact h.blank v (List.mem_append_left _ mem') c (List.mem_of_getLast? last)

theorem whole_concat (h : s.FallsInto lead (front ++ [w])) :
    s = lead ++ spread front ++ w.1 ++ w.2 := by
  rw [h.whole, spread_concat, ← List.append_assoc, ← List.append_assoc]

theorem words_eq {ws : List (Text × Text)} (h : s.FallsInto lead ws) :
    words s = ws.map Prod.fst := by
  induction ws using List.reverseRecOn generalizing s with
  | nil =>
    rw [h.whole, spread, List.flatMap_nil, List.append_nil]
    exact (words_eq_nil_iff lead).2 (List.all_eq_true.2 h.leadBlank)
  | append_singleton front w ih =>
    rw [h.whole_concat, h.isLastWord.words_eq, ih h.init, List.map_append, List.map_singleton]

end FallsInto

end Text

theorem Context.lastWordWithTail?_of_isLastWord {c : Context} {head word tail : Text}
    (h : Text.IsLastWord head word tail) (output : c.output = head ++ word ++ tail) :
    c.lastWordWithTail? = some (word, tail) := by
  rw [lastWordWithTail?, output, h.words_eq, h.trailingBlanks_eq, List.getLast?_concat,
    Option.map_some]

end Stenotype
