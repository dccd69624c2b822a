import Stenotype.Proofs.LetterSuffixes
import Stenotype.Proofs.RuleParts

/-!
# Expressions for endings

The stem of many a rule is anything with a certain ending. The endings are spelled, as one of several
or with a condition on the letter before. What such an expression takes of a word of letters is said
of the word in small letters.
-/

set_option autoImplicit false

namespace Stenotype

namespace Text

def asciiLower (s : Text) : Text := s.map Char.toLower

theorem asciiLower_append (s t : Text) : asciiLower (s ++ t) = asciiLower s ++ asciiLower t :=
  List.map_append

theorem length_asciiLower (s : Text) : (asciiLower s).length = s.length := List.length_map ..

theorem length_of_asciiLower_singleton {c : Char} {s : Text} (one : asciiLower s = [c]) :
    s.length = 1 := by
  rw [← length_asciiLower, one, List.length_singleton]

theorem any_beforeEnd?_asciiLower {mark s : Text} {P : Text → Bool} :
    (beforeEnd? mark (asciiLower s)).any P = true ↔
      ∃ x y, s = x ++ y ∧ asciiLower y = mark ∧ P (asciiLower x) = true := by
  rw [Option.any_eq_true]
  constructor
  · rintro ⟨p, whole, holds⟩
    obtain ⟨x, y, rfl, rfl, lower⟩ := List.map_eq_append_iff.1 (beforeEnd?_eq_some_iff.1 whole)
    exact ⟨x, y, rfl, lower, holds⟩
  · rintro ⟨x, y, rfl, rfl, holds⟩
    exact ⟨_, beforeEnd?_eq_some_iff.2 (asciiLower_append x y), holds⟩

theorem mem_variants_of_letter {c d : Char} (letter : d.isAlpha = true) (small : c.isLower = true) :
    c ∈ variants d ↔ d.toLower = c := by
  have ascii := isAscii_of_isAlpha letter
  have folds : fold d = d.toLower := if_pos (of_decide_eq_true ascii)
  have all : ∀ n < 0x80, (unfold (Char.ofNat n).toLower).all (!·.isLower) = true := by decide +kernel
  have others : c ∉ unfold d.toLower := by
    intro mem
    have capitals := forall_ascii (P := fun d => (unfold d.toLower).all (!·.isLower) = true) all ascii
    simpa [small] using List.all_eq_true.1 capitals c mem
  rw [variants, folds, List.mem_cons, or_iff_left others, eq_comm]

end Text

namespace Pattern

theorem CharSet.mem_anyCase_iff {s : CharSet} {cs : Text} (small : cs.all Char.isLower = true)
    (members : ∀ c, s.mem c = true ↔ c ∈ cs) {d : Char} (letter : d.isAlpha = true) :
    (anyCase s).mem d = true ↔ d.toLower ∈ cs := by
  change (Text.variants d).any s.mem = true ↔ _
  rw [List.any_eq_true]
  constructor
  · rintro ⟨c, variant, mem⟩
    have here := (members c).1 mem
    rwa [(Text.mem_variants_of_letter letter (List.all_eq_true.1 small c here)).1 variant]
  · intro here
    have lower := List.all_eq_true.1 small _ here
    exact ⟨_, (Text.mem_variants_of_letter letter lower).2 rfl, (members _).2 here⟩

def CharSet.ofChars (cs : Text) : CharSet := cs.foldl (fun s c => union s (single c)) none

theorem CharSet.mem_ofChars (cs : Text) (d : Char) : (ofChars cs).mem d = true ↔ d ∈ cs := by
  have more (s : CharSet) : (cs.foldl (fun s c => union s (single c)) s).mem d = true ↔
      s.mem d = true ∨ d ∈ cs := by
    induction cs generalizing s with
    | nil => simp
    | cons c cs ih => simp [ih, mem_single, or_assoc]
  exact (more none).trans (or_iff_right Bool.false_ne_true)

namespace Regex

def letter (c : Char) : Regex := char (.anyCase (.single c))

def spelled (s : Text) : Regex := sequence (s.map letter)

def oneOf (cs : Text) : Regex := char (.anyCase (.ofChars cs))

def anything (least : Nat) : Regex := rep (char (.compl (.single '\n'))) least none true

/-- What is spelled, at the beginning of the text or after none of the given characters. -/
def unlessAfter (cs s : Text) : Regex :=
  seq (alt (anchor .textStart) (char (.compl (.anyCase (.ofChars cs))))) (spelled s)

section takes
variable {back u after : Text}

theorem takes_anyCase_iff (letters : u.IsLetters) {s : CharSet} {cs : Text}
    (small : cs.all Char.isLower = true) (members : ∀ c, s.mem c = true ↔ c ∈ cs) :
    (char (.anyCase s)).Takes back u after ↔ ∃ c ∈ cs, Text.asciiLower u = [c] := by
  constructor
  · rintro ⟨d, rfl, mem⟩
    have letter := letters d (List.mem_singleton.2 rfl)
    exact ⟨_, (CharSet.mem_anyCase_iff small members letter).1 mem, rfl⟩
  · rintro ⟨c, mem, lower⟩
    obtain ⟨d, rfl, rfl⟩ := List.map_eq_singleton_iff.1 lower
    have letter := letters d (List.mem_singleton.2 rfl)
    exact ⟨d, rfl, (CharSet.mem_anyCase_iff small members letter).2 mem⟩

theorem takes_oneOf_iff (letters : u.IsLetters) {cs : Text} (small : cs.all Char.isLower = true) :
    (oneOf cs).Takes back u after ↔ ∃ c ∈ cs, Text.asciiLower u = [c] :=
  takes_anyCase_iff letters small (CharSet.mem_ofChars cs)

theorem takes_letter_iff (letters : u.IsLetters) {c : Char} (small : c.isLower = true) :
    (letter c).Takes back u after ↔ Text.asciiLower u = [c] := by
  have members (d : Char) : (CharSet.single c).mem d = true ↔ d ∈ [c] := by
    simp [CharSet.mem_single]
  refine (takes_anyCase_iff letters (by simpa using small) members).trans ?_
  simp only [List.mem_singleton, exists_eq_left]

theorem takes_sequence_cons (r : Regex) (rs : List Regex) :
    (sequence (r :: rs)).Takes back u after ↔ (seq r (sequence rs)).Takes back u after := by
  cases rs with
  | nil =>
    constructor
    · intro takes
      exact ⟨u, [], (List.append_nil u).symm, takes, rfl⟩
    · rintro ⟨v, _, rfl, takes, rfl⟩
      simpa [sequence] using takes
  | cons s rs => rfl

theorem takes_spelled_iff (letters : u.IsLetters) {s : Text} (small : s.all Char.isLower = true) :
    (spelled s).Takes back u after ↔ Text.asciiLower u = s := by
  induction s generalizing back u with
  | nil => exact List.map_eq_nil_iff.symm
  | cons c s ih =>
    obtain ⟨first, rest⟩ := Bool.and_eq_true_iff.1 small
    refine (takes_sequence_cons (letter c) (s.map letter)).trans ?_
    constructor
    · rintro ⟨v, w, rfl, here, later⟩
      have here := (takes_letter_iff letters.left first).1 here
      have later := (ih letters.right rest).1 later
      rw [Text.asciiLower_append, here, later]
      rfl
    · intro lower
      obtain ⟨d, t, rfl, rfl, rfl⟩ := List.map_eq_cons_iff.1 lower
      obtain ⟨one, others⟩ := List.forall_mem_cons.1 letters
      exact ⟨[d], t, rfl, (takes_letter_iff (by simpa [Text.IsLetters] using one) first).2 rfl,
        (ih others rest).2 rfl⟩

theorem takes_choice_iff {rs : List Regex} (some : rs ≠ []) :
    (choice rs).Takes back u after ↔ ∃ r ∈ rs, r.Takes back u after := by
  induction rs with
  | nil => cases some rfl
  | cons r rs ih =>
    cases rs with
    | nil => simp [choice]
    | cons s rs =>
      have rest := ih (List.cons_ne_nil s rs)
      change r.Takes back u after ∨ (choice (s :: rs)).Takes back u after ↔ _
      simp only [rest, List.mem_cons, exists_eq_or_imp]

theorem repeats_char_iff {s : CharSet} {n : Nat} :
    Repeats (char s).Takes n back u after ↔ u.length = n ∧ ∀ c ∈ u, s.mem c = true := by
  induction n generalizing back u with
  | zero =>
    rw [List.length_eq_zero_iff]
    exact ⟨fun h => ⟨h, by rw [show u = [] from h]; exact nofun⟩, And.left⟩
  | succ n ih =>
    constructor
    · rintro ⟨_, w, rfl, ⟨x, rfl, mem⟩, rest⟩
      obtain ⟨length, all⟩ := ih.1 rest
      exact ⟨by simp [length], by simpa [mem] using all⟩
    · rintro ⟨length, all⟩
      obtain ⟨x, w, rfl⟩ := List.exists_cons_of_length_eq_add_one length
      obtain ⟨mem, others⟩ := List.forall_mem_cons.1 all
      exact ⟨[x], w, rfl, ⟨x, rfl, mem⟩, ih.2 ⟨by simpa using length, others⟩⟩

theorem takes_anything_iff (letters : u.IsLetters) {least : Nat} :
    (anything least).Takes back u after ↔ least ≤ u.length := by
  have within : ∀ c ∈ u, (CharSet.compl (.single '\n')).mem c = true := by
    intro c mem
    rw [CharSet.mem_compl, CharSet.mem_single, Bool.not_eq_true', decide_eq_false_iff_not]
    rintro rfl
    cases letters _ mem
  constructor
  · rintro ⟨n, le, -, takes⟩
    obtain ⟨rfl, -⟩ := repeats_char_iff.1 takes
    exact le
  · intro le
    exact ⟨u.length, le, nofun, repeats_char_iff.2 ⟨rfl, within⟩⟩

theorem takes_anything_seq_iff (letters : u.IsLetters) {least : Nat} {r : Regex} :
    (seq (anything least) r).Takes [] u after ↔
      ∃ v w, u = v ++ w ∧ least ≤ v.length ∧ r.Takes v.reverse w after := by
  constructor
  · rintro ⟨v, w, rfl, before, takes⟩
    exact ⟨v, w, rfl, (takes_anything_iff letters.left).1 before, by simpa using takes⟩
  · rintro ⟨v, w, rfl, le, takes⟩
    exact ⟨v, w, rfl, (takes_anything_iff letters.left).2 le, by simpa using takes⟩

end takes

def Ends (r : Regex) (s after : Text) : Prop := ∃ u v, s = u ++ v ∧ r.Takes u.reverse v after

section ends
variable {s after : Text}

theorem ends_choice_iff {rs : List Regex} (some : rs ≠ []) :
    Ends (choice rs) s after ↔ ∃ r ∈ rs, Ends r s after := by
  simp only [Ends, takes_choice_iff some]
  constructor
  · rintro ⟨u, v, whole, r, hr, takes⟩
    exact ⟨r, hr, u, v, whole, takes⟩
  · rintro ⟨r, hr, u, v, whole, takes⟩
    exact ⟨u, v, whole, r, hr, takes⟩

theorem ends_seq_spelled_iff (letters : s.IsLetters) {e : Text} (small : e.all Char.isLower = true)
    {r : Regex} :
    Ends (seq r (spelled e)) s after ↔
      ∃ x y, s = x ++ y ∧ Text.asciiLower y = e ∧ Ends r x (y ++ after) := by
  constructor
  · rintro ⟨u, _, rfl, v, w, rfl, takes, ends⟩
    exact ⟨u ++ v, w, (List.append_assoc u v w).symm,
      (takes_spelled_iff letters.right.right small).1 ends, u, v, rfl, takes⟩
  · rintro ⟨_, y, rfl, lower, u, v, rfl, takes⟩
    exact ⟨u, v ++ y, List.append_assoc u v y, v, y, rfl, takes,
      (takes_spelled_iff letters.right small).2 lower⟩

theorem ends_spelled_iff (letters : s.IsLetters) {e : Text} (small : e.all Char.isLower = true) :
    Ends (spelled e) s after ↔ e <:+ Text.asciiLower s := by
  constructor
  · rintro ⟨u, v, rfl, takes⟩
    rw [takes_spelled_iff letters.right small] at takes
    exact ⟨Text.asciiLower u, by rw [Text.asciiLower_append, takes]⟩
  · rintro ⟨p, lower⟩
    obtain ⟨u, v, rfl, rfl, rfl⟩ := List.map_eq_append_iff.1 lower.symm
    exact ⟨u, v, rfl, (takes_spelled_iff letters.right small).2 rfl⟩

theorem ends_unlessAfter_iff (letters : s.IsLetters) {cs e : Text}
    (small : e.all Char.isLower = true) (small' : cs.all Char.isLower = true) :
    Ends (unlessAfter cs e) s after ↔
      ∃ p, Text.asciiLower s = p ++ e ∧ ∀ c ∈ cs, ¬ [c] <:+ p := by
  have members {d : Char} (mem : d ∈ s) := CharSet.mem_anyCase_iff small' (CharSet.mem_ofChars cs)
    (letters d mem)
  have last {c d : Char} {p : Text} : [c] <:+ p ++ [d] ↔ c = d := by
    constructor
    · rintro ⟨t, whole⟩
      exact List.singleton_inj.1 (List.append_inj' whole rfl).2
    · rintro rfl
      exact List.suffix_append p [c]
  rw [unlessAfter, ends_seq_spelled_iff letters small]
  constructor
  · rintro ⟨_, y, rfl, rfl, u, v, rfl, first | ⟨d, rfl, mem⟩⟩
    · obtain ⟨rfl, start⟩ := first
      obtain rfl : u = [] := by simpa using List.isEmpty_iff.1 start
      exact ⟨[], rfl, fun c _ h => by simp at h⟩
    · refine ⟨Text.asciiLower u ++ [d.toLower], by simp [Text.asciiLower], fun c here h => ?_⟩
      obtain rfl := last.1 h
      rw [CharSet.mem_compl, Bool.not_eq_true'] at mem
      rw [(members (by simp)).2 here] at mem
      cases mem
  · rintro ⟨p, lower, apart⟩
    obtain ⟨x, y, rfl, rfl, rfl⟩ := List.map_eq_append_iff.1 lower
    refine ⟨x, y, rfl, rfl, ?_⟩
    rcases List.eq_nil_or_concat x with rfl | ⟨u, d, rfl⟩
    · exact ⟨[], [], rfl, .inl ⟨rfl, rfl⟩⟩
    · refine ⟨u, [d], List.concat_eq_append, .inr ⟨d, rfl, ?_⟩⟩
      rw [CharSet.mem_compl, Bool.not_eq_true', ← Bool.not_eq_true, members (by simp)]
      exact fun here => apart _ here (by simp [last])

end ends
end Regex
end Pattern
end Stenotype
