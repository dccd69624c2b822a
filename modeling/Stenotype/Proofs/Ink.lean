import Stenotype.Action

/-!
# Ink

A text that ends in ink ends with its last word, and no change of case puts a blank in the place of
ink.
-/

set_option autoImplicit false

namespace Stenotype

namespace Text

def endsInInk (s : Text) : Bool := s.getLast?.any fun c => !isBlank c

theorem endsInInk_iff {s : Text} :
    endsInInk s = true ↔ ∃ r c, s = r ++ [c] ∧ isBlank c = false := by
  rcases List.eq_nil_or_concat s with rfl | ⟨r, c, rfl⟩
  · simp [endsInInk]
  · rw [List.concat_eq_append]
    simp only [endsInInk, List.getLast?_concat, Option.any_some, Bool.not_eq_true']
    refine ⟨fun ink => ⟨r, c, rfl, ink⟩, ?_⟩
    rintro ⟨r', c', same, ink⟩
    rw [(List.cons.inj (List.append_inj' same rfl).2).1]
    exact ink

theorem endsInInk_append (s : Text) {t : Text} (h : endsInInk t = true) :
    endsInInk (s ++ t) = true := by
  obtain ⟨r, c, rfl, ink⟩ := endsInInk_iff.1 h
  exact endsInInk_iff.2 ⟨s ++ r, c, (List.append_assoc ..).symm, ink⟩

theorem endsInInk_of_ink {s : Text} (ne : s ≠ []) (ink : ∀ c ∈ s, isBlank c = false) :
    endsInInk s = true := by
  refine endsInInk_iff.2 ⟨List.dropLast s, s.getLast ne, (List.dropLast_concat_getLast ne).symm, ?_⟩
  exact ink _ (List.getLast_mem ne)

theorem append_of_words {s w : Text} {ws : List Text} (h : words s = ws ++ [w]) :
    ∃ front blanks, s = front ++ w ++ blanks ∧ (∀ c ∈ blanks, isBlank c = true) ∧
      (ws = [] → ∀ c ∈ front, isBlank c = true) := by
  fun_induction words s generalizing ws w with
  | case1 => simp at h
  | case2 c r blank ih =>
    obtain ⟨front, blanks, rfl, after, before⟩ := ih h
    refine ⟨c :: front, blanks, rfl, after, fun only d hd => ?_⟩
    rcases List.mem_cons.1 hd with rfl | hd
    · exact blank
    · exact before only d hd
  | case3 c ink =>
    obtain ⟨rfl, rfl⟩ : ws = [] ∧ w = [c] := by
      cases ws <;> simp_all
    exact ⟨[], [], rfl, by simp, by simp⟩
  | case4 c ink d t blank ih =>
    cases ws with
    | nil =>
      simp only [List.nil_append, List.cons.injEq] at h
      obtain ⟨rfl, none⟩ := h
      refine ⟨[], d :: t, rfl, ?_, by simp⟩
      simpa [isAllBlank] using (words_eq_nil_iff _).1 none
    | cons v vs =>
      simp only [List.cons_append, List.cons.injEq] at h
      obtain ⟨front, blanks, whole, after, _⟩ := ih h.2
      refine ⟨c :: front, blanks, ?_, after, by simp⟩
      rw [whole]
      rfl
  | case5 c ink d t ink' none ih =>
    have blank := (words_eq_nil_iff _).1 none
    simp [isAllBlank, ink'] at blank
  | case6 c ink d t ink' v vs eq ih =>
    simp only [eq] at h
    cases ws with
    | nil =>
      simp only [List.nil_append, List.cons.injEq] at h
      obtain ⟨rfl, rfl⟩ := h
      have only : words (d :: t) = [] ++ [v] := eq
      obtain ⟨front, blanks, whole, after, before⟩ := ih only
      -- what follows begins with ink, so there are no blanks before its only word
      cases front with
      | nil => exact ⟨[], blanks, by rw [whole]; rfl, after, by simp⟩
      | cons b front =>
        have same : d = b := (List.cons.inj whole).1
        rw [same, before rfl b (List.mem_cons_self ..)] at ink'
        exact absurd rfl ink'
    | cons u us =>
      simp only [List.cons_append, List.cons.injEq] at h
      have more : words (d :: t) = (v :: us) ++ [w] := by rw [eq, h.2]; rfl
      obtain ⟨front, blanks, whole, after, _⟩ := ih more
      refine ⟨c :: front, blanks, ?_, after, by simp⟩
      rw [whole]
      rfl

theorem trailingBlanks_append {s blanks : Text} (ink : s = [] ∨ endsInInk s = true)
    (blank : ∀ c ∈ blanks, isBlank c = true) : trailingBlanks (s ++ blanks) = blanks := by
  have back : ∀ c ∈ blanks.reverse, isBlank c = true := fun c hc => blank c (List.mem_reverse.1 hc)
  rw [trailingBlanks, List.reverse_append, List.takeWhile_append_of_pos back]
  have stop : s.reverse.takeWhile isBlank = [] := by
    rcases ink with rfl | ink
    · rfl
    · obtain ⟨r, c, rfl, dark⟩ := endsInInk_iff.1 ink
      simp [dark]
  rw [stop, List.append_nil, List.reverse_reverse]

theorem getLast?_words {s blanks : Text} (ink : endsInInk s = true)
    (blank : ∀ c ∈ blanks, isBlank c = true) :
    ∃ front w, s = front ++ w ∧ (words (s ++ blanks)).getLast? = some w ∧ w ≠ [] ∧
      ∀ c ∈ w, isBlank c = false := by
  have some_word : words (s ++ blanks) ≠ [] := by
    obtain ⟨r, c, rfl, dark⟩ := endsInInk_iff.1 ink
    intro none
    have all := (words_eq_nil_iff _).1 none
    simp [isAllBlank, dark] at all
  let w := (words (s ++ blanks)).getLast some_word
  have last : words (s ++ blanks) = (words (s ++ blanks)).dropLast ++ [w] :=
    (List.dropLast_concat_getLast some_word).symm
  obtain ⟨ne, dark⟩ := mem_words (List.getLast_mem some_word)
  obtain ⟨front, blanks', whole, blank', _⟩ := append_of_words last
  refine ⟨front, w, ?_, List.getLast?_eq_some_getLast some_word, ne, dark⟩
  have same : blanks = blanks' := by
    rw [← trailingBlanks_append (.inr ink) blank, whole]
    exact trailingBlanks_append (.inr (endsInInk_append _ (endsInInk_of_ink ne dark))) blank'
  rw [← same] at whole
  exact List.append_cancel_right whole

theorem rightmostWord_suffix {s : Text} (ink : endsInInk s = true) : rightmostWord s <:+ s := by
  have none : ∀ c ∈ ([] : Text), isBlank c = true := by simp
  obtain ⟨front, w, rfl, last, _⟩ := getLast?_words ink none
  rw [List.append_nil] at last
  rw [rightmostWord, List.getLastD_eq_getLast?, last]
  exact List.suffix_append _ _

def KeepsInk (f : Char → Text) : Prop :=
  ∀ c, isBlank c = false → f c ≠ [] ∧ ∀ d ∈ f c, isBlank d = false

theorem ink_flatMap {f : Char → Text} (keeps : KeepsInk f) {s : Text}
    (ink : ∀ c ∈ s, isBlank c = false) : ∀ d ∈ s.flatMap f, isBlank d = false := by
  intro d hd
  obtain ⟨c, hc, here⟩ := List.mem_flatMap.1 hd
  exact (keeps c (ink c hc)).2 d here

theorem endsInInk_flatMap {f : Char → Text} (keeps : KeepsInk f) {s : Text}
    (ink : endsInInk s = true) : endsInInk (s.flatMap f) = true := by
  obtain ⟨r, c, rfl, dark⟩ := endsInInk_iff.1 ink
  obtain ⟨ne, images⟩ := keeps c dark
  rw [List.flatMap_append, List.flatMap_singleton]
  exact endsInInk_append _ (endsInInk_of_ink ne images)

def Span.missesBlanks (p : Span) : Bool :=
  blankRanges.all fun (a, b) => p.image + (p.last - p.first) < a || b < p.image

theorem lookup?_eq_some {spans : List Span} {n m : Nat} (h : lookup? spans n = some m) :
    ∃ p ∈ spans, p.image ≤ m ∧ m ≤ p.image + (p.last - p.first) := by
  obtain ⟨p, hp, here⟩ := List.exists_of_findSome?_eq_some h
  simp only [Span.map?, Span.covers, Option.ite_none_right_eq_some, Bool.and_eq_true,
    decide_eq_true_eq, Option.some.injEq] at here
  exact ⟨p, hp, by omega, by omega⟩

theorem isBlank_ofNat {n : Nat} (misses : ∀ r ∈ blankRanges, n < r.1 ∨ r.2 < n) :
    isBlank (Char.ofNat n) = false := by
  refine Bool.eq_false_iff.2 fun blank => ?_
  obtain ⟨r, hr, from_a, to_b⟩ := (Ranges.contains_iff _ _).1 blank
  by_cases valid : n.isValidChar
  · have same : (Char.ofNat n).toNat = n := by
      rw [Char.ofNat, dif_pos valid]
      exact UInt32.toNat_ofNatLT
    rw [same] at from_a to_b
    rcases misses r hr with h | h <;> omega
  · have null : (Char.ofNat n).toNat = 0 := by simp [Char.ofNat, valid]
    rw [null] at from_a
    have positive : ∀ r ∈ blankRanges, 0 < r.1 := by decide
    exact absurd from_a (Nat.not_le.2 (positive r hr))

theorem missesBlanks_spans : (upperSpans ++ lowerSpans).all Span.missesBlanks = true := by
  decide +kernel

theorem missesBlanks_expansions :
    ((upperExpansions ++ lowerExpansions).all fun row => 2 ≤ row.length &&
      row.tail.all fun n => blankRanges.all fun (a, b) => n < a || b < n) = true := by
  decide +kernel

theorem mapCase_cases {expansions : List (List Nat)} {spans : List Span}
    (rows : ∀ row ∈ expansions, row ∈ upperExpansions ++ lowerExpansions)
    (ranges : ∀ p ∈ spans, p ∈ upperSpans ++ lowerSpans) (c : Char) :
    mapCase expansions spans c = [c] ∨
      (mapCase expansions spans c ≠ [] ∧ ∀ d ∈ mapCase expansions spans c, isBlank d = false) := by
  unfold mapCase
  split
  · next row found =>
    have mem := rows row (List.mem_of_find?_eq_some found)
    have fine := List.all_eq_true.1 missesBlanks_expansions row mem
    simp only [Bool.and_eq_true, decide_eq_true_eq, List.all_eq_true, Bool.or_eq_true] at fine
    obtain ⟨long, misses⟩ := fine
    refine .inr ⟨?_, fun d hd => ?_⟩
    · rw [Ne, List.map_eq_nil_iff, ← List.length_eq_zero_iff, List.length_tail]
      omega
    · obtain ⟨n, hn, rfl⟩ := List.mem_map.1 hd
      exact isBlank_ofNat (misses n hn)
  · split
    · next n found =>
      obtain ⟨p, hp, low, high⟩ := lookup?_eq_some found
      have fine := List.all_eq_true.1 missesBlanks_spans p (ranges p hp)
      simp only [Span.missesBlanks, List.all_eq_true, Bool.or_eq_true, decide_eq_true_eq] at fine
      refine .inr ⟨List.cons_ne_nil _ _, fun d hd => ?_⟩
      rw [List.mem_singleton.1 hd]
      refine isBlank_ofNat fun r hr => ?_
      have := fine r hr
      omega
    · exact .inl rfl

theorem keepsInk_mapCase {expansions : List (List Nat)} {spans : List Span}
    (rows : ∀ row ∈ expansions, row ∈ upperExpansions ++ lowerExpansions)
    (ranges : ∀ p ∈ spans, p ∈ upperSpans ++ lowerSpans) : KeepsInk (mapCase expansions spans) := by
  intro c ink
  rcases mapCase_cases rows ranges c with stays | other
  · rw [stays]
    refine ⟨List.cons_ne_nil _ _, fun d hd => ?_⟩
    rw [List.mem_singleton.1 hd]
    exact ink
  · exact other

theorem forall_ascii {P : Char → Prop} (h : ∀ n < 0x80, P (Char.ofNat n)) {c : Char}
    (ascii : isAscii c = true) : P c := by
  have here := h c.toNat (by simpa [isAscii] using ascii)
  rwa [Char.ofNat_toNat] at here

theorem isBlank_asciiCase {c : Char} (ascii : isAscii c = true) (ink : isBlank c = false) :
    isBlank c.toUpper = false ∧ isBlank c.toLower = false := by
  have all : ∀ n < 0x80, isBlank (Char.ofNat n) = false →
      isBlank (Char.ofNat n).toUpper = false ∧ isBlank (Char.ofNat n).toLower = false := by
    decide +kernel
  exact forall_ascii (P := fun c => isBlank c = false →
    isBlank c.toUpper = false ∧ isBlank c.toLower = false) all ascii ink

theorem KeepsInk.elseAscii {f : Char → Text} (keeps : KeepsInk f) {g : Char → Char}
    (ascii : ∀ c, isAscii c = true → isBlank c = false → isBlank (g c) = false) :
    KeepsInk fun c => if isAscii c then [g c] else f c := by
  intro c ink
  dsimp only
  split
  · next small =>
    refine ⟨List.cons_ne_nil _ _, fun d hd => ?_⟩
    rw [List.mem_singleton.1 hd]
    exact ascii c small ink
  · exact keeps c ink

theorem keepsInk_upperChar : KeepsInk upperChar :=
  (keepsInk_mapCase (fun _ => List.mem_append_left _) fun _ => List.mem_append_left _).elseAscii
    fun _ ascii ink => (isBlank_asciiCase ascii ink).1

theorem keepsInk_lowerChar : KeepsInk lowerChar :=
  (keepsInk_mapCase (fun _ => List.mem_append_right _) fun _ => List.mem_append_right _).elseAscii
    fun _ ascii ink => (isBlank_asciiCase ascii ink).2

theorem endsInInk_upper {s : Text} (ink : endsInInk s = true) : endsInInk (upper s) = true :=
  endsInInk_flatMap keepsInk_upperChar ink

theorem endsInInk_mapFirst {f : Char → Text} (keeps : KeepsInk f) {c : Char} {r : Text}
    (ink : endsInInk (c :: r) = true) : endsInInk (f c ++ r) = true := by
  cases r with
  | nil =>
    have dark : isBlank c = false := by simpa [endsInInk] using ink
    rw [List.append_nil]
    exact endsInInk_of_ink (keeps c dark).1 (keeps c dark).2
  | cons d r =>
    have rest : endsInInk (d :: r) = true := by simpa [endsInInk] using ink
    exact endsInInk_append _ rest

theorem endsInInk_capitalizeFirst {s : Text} (ink : endsInInk s = true) :
    endsInInk (capitalizeFirst s) = true := by
  cases s with
  | nil => cases ink
  | cons c r => exact endsInInk_mapFirst keepsInk_upperChar ink

theorem endsInInk_lowerFirst {s : Text} (ink : endsInInk s = true) :
    endsInInk (lowerFirst s) = true := by
  cases s with
  | nil => cases ink
  | cons c r => exact endsInInk_mapFirst keepsInk_lowerChar ink

theorem ink_mapFirst {f : Char → Text} (keeps : KeepsInk f) {c : Char} {r : Text}
    (ink : ∀ d ∈ c :: r, isBlank d = false) : ∀ d ∈ f c ++ r, isBlank d = false := by
  intro d hd
  rcases List.mem_append.1 hd with hd | hd
  · exact (keeps c (ink c (List.mem_cons_self ..))).2 d hd
  · exact ink d (List.mem_cons_of_mem _ hd)

theorem ink_capitalizeFirst {s : Text} (ink : ∀ c ∈ s, isBlank c = false) :
    ∀ d ∈ capitalizeFirst s, isBlank d = false := by
  cases s with
  | nil => exact ink
  | cons c r => exact ink_mapFirst keepsInk_upperChar ink

theorem ink_lowerFirst {s : Text} (ink : ∀ c ∈ s, isBlank c = false) :
    ∀ d ∈ lowerFirst s, isBlank d = false := by
  cases s with
  | nil => exact ink
  | cons c r => exact ink_mapFirst keepsInk_lowerChar ink

theorem endsInInk_lowerAfter {s : Text} (before : Text) (ink : endsInInk s = true) :
    endsInInk (lowerAfter before s) = true := by
  induction s generalizing before with
  | nil => cases ink
  | cons c r ih =>
    cases r with
    | nil =>
      have dark : isBlank c = false := by simpa [endsInInk] using ink
      simp only [lowerAfter, List.append_nil]
      split
      · split <;> decide
      · exact endsInInk_of_ink (keepsInk_lowerChar c dark).1 (keepsInk_lowerChar c dark).2
    | cons d r =>
      have rest : endsInInk (d :: r) = true := by simpa [endsInInk] using ink
      rw [lowerAfter]
      exact endsInInk_append _ (ih _ rest)

theorem endsInInk_titleFrom {s : Text} (atStart : Bool) (ink : endsInInk s = true) :
    endsInInk (titleFrom atStart s) = true := by
  induction s generalizing atStart with
  | nil => cases ink
  | cons c r ih =>
    cases r with
    | nil =>
      have dark : isBlank c = false := by simpa [endsInInk] using ink
      simp only [titleFrom, dark, Bool.false_eq_true, ↓reduceIte, List.append_nil]
      split
      · exact endsInInk_of_ink (keepsInk_upperChar c dark).1 (keepsInk_upperChar c dark).2
      · exact endsInInk_of_ink (keepsInk_lowerChar c dark).1 (keepsInk_lowerChar c dark).2
    | cons d r =>
      have rest : endsInInk (d :: r) = true := by simpa [endsInInk] using ink
      rw [titleFrom]
      split
      · exact endsInInk_append [c] (ih true rest)
      · exact endsInInk_append _ (ih false rest)

end Text

theorem LetterCase.endsInInk_apply (case : Option LetterCase) (goesOn : Bool) {s : Text}
    (ink : Text.endsInInk s = true) : Text.endsInInk (apply case goesOn s) = true := by
  cases case with
  | none => exact ink
  | some case =>
    cases case with
    | capFirstWord => exact Text.endsInInk_capitalizeFirst ink
    | lowerFirstChar => exact Text.endsInInk_lowerFirst ink
    | upper => exact Text.endsInInk_upper ink
    | lower => exact Text.endsInInk_lowerAfter [] ink
    | title =>
      rw [apply]
      split
      · exact ink
      · exact Text.endsInInk_titleFrom true ink

end Stenotype
