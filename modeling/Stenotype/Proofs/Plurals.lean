import Stenotype.Proofs.Spelling

/-!
# English plurals

For the suffix of a plural three rows of the table matter: one for sibilants, one for a soft `ch`, and
one for a `y` after a consonant. The row for `ch` tells an `r` after `ga`, `ia` or `na` from others by
what comes before the `r`, and before the letter before it, since an expression cannot look back.
-/

set_option autoImplicit false

namespace Stenotype

namespace Text

def sibilants : List Text := [['s'], ['s', 'h'], ['x'], ['z'], ['z', 'h']]

/-- The endings, besides `r`, after which `ch` is soft. -/
def softeners : List Text :=
  [['o', 'a'], ['e', 'a'], ['i'], ['e', 'e'], ['o', 'o'], ['a', 'u'], ['o', 'u'], ['l'], ['n'], ['t']]

def hardeners : List Text := [['g', 'a', 'r'], ['i', 'a', 'r'], ['n', 'a', 'r']]

def softens (s : Text) : Bool :=
  softeners.any (endsWith · s) || (endsWith ['r'] s && !hardeners.any (endsWith · s))

def consonants : Text := "bcdfghjklmnpqrstvwxz".toList

def endsInConsonant (s : Text) : Bool := 2 ≤ s.length && consonants.any fun c => endsWith [c] s

/-- The plural of an English word, by its ending in any case. -/
def plural (w : Text) : Text :=
  let l := asciiLower w
  if sibilants.any (endsWith · l) then w ++ ['e', 's']
  else if (beforeEnd? ['c', 'h'] l).any softens then w ++ ['e', 's']
  else if (beforeEnd? ['y'] l).any endsInConsonant then dropLast 1 w ++ ['i', 'e', 's']
  else w ++ ['s']

theorem any_endsWith_iff {es : List Text} {s : Text} :
    es.any (endsWith · s) = true ↔ ∃ e ∈ es, e <:+ s := by
  simp only [List.any_eq_true, endsWith, List.isSuffixOf_iff_suffix]

/-- To look behind the `r` is the same as to tell it by what comes before it. -/
theorem softens_iff {s : Text} :
    softens s = true ↔ (∃ e ∈ softeners, e <:+ s) ∨
      (∃ p, s = p ++ ['r'] ∧ ∀ c ∈ ['a'], ¬ [c] <:+ p) ∨
        ∃ p, s = p ++ ['a', 'r'] ∧ ∀ c ∈ ['g', 'i', 'n'], ¬ [c] <:+ p := by
  have behind_r {p : Text} : ['a', 'r'] <:+ p ++ ['r'] ↔ ['a'] <:+ p :=
    @List.suffix_append_self_iff _ ['a'] p ['r']
  have behind_ar {c : Char} {p : Text} : [c, 'a', 'r'] <:+ p ++ ['a', 'r'] ↔ [c] <:+ p :=
    @List.suffix_append_self_iff _ [c] p ['a', 'r']
  have hard : hardeners.any (endsWith · s) = true ↔ ∃ c ∈ ['g', 'i', 'n'], [c, 'a', 'r'] <:+ s := by
    rw [any_endsWith_iff]
    simp [hardeners]
  rw [softens, Bool.or_eq_true, any_endsWith_iff, Bool.and_eq_true, Bool.not_eq_true',
    ← Bool.not_eq_true, hard, endsWith, List.isSuffixOf_iff_suffix]
  refine or_congr_right ⟨?_, ?_⟩
  · rintro ⟨⟨p, rfl⟩, soft⟩
    -- Behind an `a` the one alternative fails and the other looks at the letter before it.
    by_cases a : ['a'] <:+ p
    · obtain ⟨q, rfl⟩ := a
      rw [List.append_assoc] at soft ⊢
      exact .inr ⟨q, rfl, fun c mem ends => soft ⟨c, mem, behind_ar.2 ends⟩⟩
    · exact .inl ⟨p, rfl, List.forall_mem_singleton.2 a⟩
  · rintro (⟨p, rfl, other⟩ | ⟨p, rfl, other⟩)
    · refine ⟨List.suffix_append p ['r'], ?_⟩
      rintro ⟨c, -, ends⟩
      exact other 'a' (List.mem_singleton.2 rfl) (behind_r.1 ((List.suffix_cons c _).trans ends))
    · refine ⟨⟨p ++ ['a'], by rw [List.append_assoc]; rfl⟩, ?_⟩
      rintro ⟨c, mem, ends⟩
      exact other c mem (behind_ar.1 ends)

end Text

open Pattern Regex

namespace Pattern.Regex

def sibilantStem : Regex := seq (anything 0) (choice (Text.sibilants.map spelled))

def softEndings : List Regex :=
  Text.softeners.map spelled ++ [unlessAfter ['a'] ['r'], unlessAfter ['g', 'i', 'n'] ['a', 'r']]

def softStem : Regex := seq (anything 0) (seq (choice softEndings) (spelled ['c', 'h']))

def consonantStem : Regex := seq (anything 1) (oneOf Text.consonants)

def pluralEnd : Regex := seq (letter 's') (anchor .textEnd)

end Pattern.Regex

namespace Orthography

/-- Behind six rows that refuse the suffix of a plural come the ones for it; any other row refuses it
too, or asks the same of the word as one of them does. -/
structure HasPluralRows (o : Orthography) : Prop where
  earlier : (o.rules.take 6).all (·.refuses 's') = true
  rows : ((o.rules.drop 6).take 3).map (fun r => (r.pattern.program.regex.parts?, r.template)) =
    [(some (sibilantStem, .empty, pluralEnd), .group ['1'] :: ['e', 's'].map .literal),
      (some (softStem, .empty, pluralEnd), .group ['1'] :: ['e', 's'].map .literal),
      (some (consonantStem, seq (letter 'y') .empty, pluralEnd),
        .group ['1'] :: ['i', 'e', 's'].map .literal)]
  later : (o.rules.drop 9).all (fun r => r.refuses 's' ||
    r.pattern.program.regex.parts?.any fun (stem, dropped, _) =>
      stem = consonantStem && dropped = seq (letter 'y') .empty) = true

theorem english_hasPluralRows : english.HasPluralRows := by
  unfold english englishTable
  repeat rw [ofTable_cons]
  constructor <;> decide +kernel

end Orthography

namespace Pattern.Regex
variable {u v w back after rest : Text}

theorem ends_spelledChoice_iff (letters : w.IsLetters) {es : List Text}
    (small : es.all (·.all Char.isLower) = true) :
    (∃ r ∈ es.map spelled, Ends r w after) ↔ ∃ e ∈ es, e <:+ Text.asciiLower w := by
  simp only [List.mem_map, exists_exists_and_eq_and]
  exact exists_congr fun e => and_congr_right fun mem =>
    ends_spelled_iff letters (List.all_eq_true.1 small e mem)

theorem takes_sibilantStem_iff (letters : w.IsLetters) :
    sibilantStem.Takes [] w after ↔
      Text.sibilants.any (Text.endsWith · (Text.asciiLower w)) = true := by
  rw [sibilantStem, takes_anything_seq_iff letters, Text.any_endsWith_iff,
    ← @ends_spelledChoice_iff w after letters _ (by decide), ← ends_choice_iff (by decide)]
  simp only [Nat.zero_le, true_and, Ends]

theorem ends_softEndings_iff (letters : w.IsLetters) :
    Ends (choice softEndings) w after ↔ Text.softens (Text.asciiLower w) = true := by
  rw [ends_choice_iff (by simp [softEndings]), Text.softens_iff, softEndings,
    ← @ends_spelledChoice_iff w after letters _ (by decide),
    ← @ends_unlessAfter_iff w after letters _ _ (by decide) (by decide),
    ← @ends_unlessAfter_iff w after letters _ _ (by decide) (by decide)]
  simp only [List.mem_append, or_and_right, exists_or, List.mem_cons, List.not_mem_nil, or_false,
    exists_eq_left]

theorem takes_softStem_iff (letters : w.IsLetters) :
    softStem.Takes [] w after ↔
      (Text.beforeEnd? ['c', 'h'] (Text.asciiLower w)).any Text.softens = true := by
  have split : softStem.Takes [] w after ↔
      Ends (seq (choice softEndings) (spelled ['c', 'h'])) w after := by
    rw [softStem, takes_anything_seq_iff letters]
    simp only [Nat.zero_le, true_and, Ends]
  rw [split, ends_seq_spelled_iff letters (by decide), Text.any_beforeEnd?_asciiLower]
  constructor
  · rintro ⟨x, y, rfl, lower, ends⟩
    exact ⟨x, y, rfl, lower, (ends_softEndings_iff letters.left).1 ends⟩
  · rintro ⟨x, y, rfl, lower, soft⟩
    exact ⟨x, y, rfl, lower, (ends_softEndings_iff letters.left).2 soft⟩

theorem takes_consonantStem_iff (letters : w.IsLetters) :
    consonantStem.Takes [] w after ↔ Text.endsInConsonant (Text.asciiLower w) = true := by
  rw [consonantStem, takes_anything_seq_iff letters, Text.endsInConsonant, Bool.and_eq_true,
    decide_eq_true_eq, List.any_eq_true, Text.length_asciiLower]
  simp only [Text.endsWith, List.isSuffixOf_iff_suffix]
  constructor
  · rintro ⟨v, x, rfl, le, takes⟩
    obtain ⟨c, mem, lower⟩ := (takes_oneOf_iff letters.right (by decide)).1 takes
    have one := Text.length_of_asciiLower_singleton lower
    refine ⟨by rw [List.length_append]; omega, c, mem, ?_⟩
    rw [Text.asciiLower_append, lower]
    exact List.suffix_append _ _
  · rintro ⟨two, c, mem, p, lower⟩
    obtain ⟨v, x, rfl, rfl, single⟩ := List.map_eq_append_iff.1 lower.symm
    have one := Text.length_of_asciiLower_singleton single
    rw [List.length_append] at two
    exact ⟨v, x, rfl, by omega, (takes_oneOf_iff letters.right (by decide)).2 ⟨c, mem, single⟩⟩

theorem length_of_takes_letter {c : Char} (h : (seq (letter c) .empty).Takes back v after) :
    v.length = 1 := by
  obtain ⟨_, _, rfl, ⟨d, rfl, -⟩, rfl⟩ := h
  rfl

theorem takes_y_iff (letters : v.IsLetters) :
    (seq (letter 'y') .empty).Takes back v after ↔ Text.asciiLower v = ['y'] :=
  (takes_sequence_cons (letter 'y') []).symm.trans (takes_letter_iff letters (by decide))

theorem parts_pluralEnd_iff {stem before : Regex} :
    Parts stem before pluralEnd [] u v ['s'] ↔
      stem.Takes [] u (v ++ (breakText ++ ['s'])) ∧ before.Takes u.reverse v (breakText ++ ['s']) := by
  constructor
  · intro h
    exact ⟨h.stem, by simpa using h.dropped⟩
  · rintro ⟨stem, dropped⟩
    refine ⟨stem, by simpa using dropped, ['s'], [], rfl, ['s'], [], rfl, ?_, rfl, rfl⟩
    exact (takes_letter_iff (by decide) (by decide)).2 rfl

end Pattern.Regex

namespace Orthography
variable {w : Text}

theorem takes_consonantY_iff (letters : w.IsLetters) {after rest : Text} :
    (consonantStem.Takes [] (Text.dropLast 1 w) after ∧
      (seq (letter 'y') .empty).Takes (Text.dropLast 1 w).reverse (Text.takeLast 1 w) rest) ↔
      (Text.beforeEnd? ['y'] (Text.asciiLower w)).any Text.endsInConsonant = true := by
  have whole := Text.dropLast_append_takeLast 1 w
  have front : (Text.dropLast 1 w).IsLetters := Text.IsLetters.left (whole.symm ▸ letters)
  have back : (Text.takeLast 1 w).IsLetters := Text.IsLetters.right (whole.symm ▸ letters)
  rw [takes_consonantStem_iff front, takes_y_iff back, Text.any_beforeEnd?_asciiLower]
  constructor
  · rintro ⟨ends, y⟩
    exact ⟨_, _, whole.symm, y, ends⟩
  · rintro ⟨u, v, rfl, y, ends⟩
    rw [← Text.length_of_asciiLower_singleton y, Text.dropLast_append_length,
      Text.takeLast_append_length]
    exact ⟨ends, y⟩

theorem consonantY_of_join? {r : SuffixRule} {after : Regex}
    (parts : r.pattern.program.regex.parts? = some (consonantStem, seq (letter 'y') .empty, after))
    (letters : w.IsLetters) {suffix new : Text} (plain : '^' ∉ suffix)
    (joined : r.join? w suffix = some new) :
    (Text.beforeEnd? ['y'] (Text.asciiLower w)).any Text.endsInConsonant = true := by
  obtain ⟨u, v, group, rfl, here, -⟩ := SuffixRule.parts_of_join? parts letters.no_space plain joined
  exact Text.any_beforeEnd?_asciiLower.2 ⟨u, v, rfl, (takes_y_iff letters.right).1 here.dropped,
    (takes_consonantStem_iff letters.left).1 here.stem⟩

theorem join?_of_whole {r : SuffixRule} {stem : Regex} {made : Text}
    (row : (r.pattern.program.regex.parts?, r.template) =
      (some (stem, .empty, pluralEnd), .group ['1'] :: made.map .literal)) (letters : w.IsLetters)
    {P : Prop} [Decidable P] (holds : ∀ after, stem.Takes [] w after ↔ P) :
    r.join? w ['s'] = if P then some (w ++ made) else none := by
  have nothing (back v rest : Text) (h : Regex.empty.Takes back v rest) : v.length = 0 :=
    List.length_eq_zero_iff.2 h
  have none_left : Text.takeLast 0 w = [] := by rw [Text.takeLast, Nat.sub_zero, List.drop_length]
  have parts : Parts stem .empty pluralEnd [] (Text.dropLast 0 w) (Text.takeLast 0 w) ['s'] ↔ P := by
    rw [parts_pluralEnd_iff, Text.dropLast_zero, holds]
    exact and_iff_left none_left
  have joined := SuffixRule.join?_eq_ite (congrArg Prod.fst row) nothing (congrArg Prod.snd row)
    letters.no_space (by decide) parts
  rwa [Text.dropLast_zero] at joined

theorem HasPluralRows.addSuffix_s {o : Orthography} (h : o.HasPluralRows) (letters : w.IsLetters) :
    o.addSuffix w ['s'] = Text.plural w := by
  have plain := letters.no_space
  have plain' : '^' ∉ ['s'] := by decide
  obtain ⟨sibilant, l, three, first, rows⟩ := List.map_eq_cons_iff.1 h.rows
  obtain ⟨soft, l, rfl, second, rows⟩ := List.map_eq_cons_iff.1 rows
  obtain ⟨consonantY, l, rfl, third, rows⟩ := List.map_eq_cons_iff.1 rows
  obtain rfl := List.map_eq_nil_iff.1 rows
  have all : o.rules = o.rules.take 6 ++
      ([sibilant, soft, consonantY] ++ o.rules.drop 9) := by
    have drop : o.rules.drop 9 = (o.rules.drop 6).drop 3 := by rw [List.drop_drop]
    rw [drop, ← three, List.take_append_drop, List.take_append_drop]
  have earlier : (o.rules.take 6).findSome? (·.join? w ['s']) = none :=
    List.findSome?_eq_none_iff.2 fun r hr =>
      SuffixRule.join?_eq_none_of_refuses (List.all_eq_true.1 h.earlier r hr) plain plain'
  -- A row behind that takes a `y` after a consonant is not reached where there is one.
  have later (other : ¬ (Text.beforeEnd? ['y'] (Text.asciiLower w)).any Text.endsInConsonant = true) :
      (o.rules.drop 9).findSome? (·.join? w ['s']) = none := by
    refine List.findSome?_eq_none_iff.2 fun r hr => ?_
    rcases Bool.or_eq_true_iff.1 (List.all_eq_true.1 h.later r hr) with refuses | same
    · exact SuffixRule.join?_eq_none_of_refuses refuses plain plain'
    · obtain ⟨⟨stem, dropped, rest⟩, parts, same⟩ := (Option.any_eq_true ..).1 same
      obtain ⟨rfl, rfl⟩ := by simpa using same
      exact Option.eq_none_iff_forall_ne_some.2 fun new joined =>
        other (consonantY_of_join? parts letters plain' joined)
  have first := join?_of_whole first letters fun _ => takes_sibilantStem_iff letters
  have second := join?_of_whole second letters fun _ => takes_softStem_iff letters
  have third := SuffixRule.join?_eq_ite (congrArg Prod.fst third)
    (fun _ _ _ => length_of_takes_letter) (congrArg Prod.snd third) plain plain'
    (parts_pluralEnd_iff.trans (takes_consonantY_iff letters))
  rw [addSuffix, all, List.findSome?_append, earlier, Option.none_or, List.findSome?_append]
  simp only [List.findSome?_cons, List.findSome?_nil, first, second, third, Text.plural]
  by_cases sibilant : Text.sibilants.any (Text.endsWith · (Text.asciiLower w)) = true
  · simp [sibilant]
  by_cases soft : (Text.beforeEnd? ['c', 'h'] (Text.asciiLower w)).any Text.softens = true
  · simp [sibilant, soft]
  by_cases consonantY : (Text.beforeEnd? ['y'] (Text.asciiLower w)).any Text.endsInConsonant = true
  · simp [sibilant, soft, consonantY]
  · simp [sibilant, soft, consonantY, later consonantY]

/-- For every word of letters, English makes the plural by the rule of plurals. -/
theorem english_addSuffix_s (letters : w.IsLetters) : english.addSuffix w ['s'] = Text.plural w :=
  english_hasPluralRows.addSuffix_s letters

theorem english_addSuffix_s_monarch :
    Text.IsLetters "Monarch".toList ∧ Text.IsLetters "sTARCH".toList ∧ Text.IsLetters "Cherry".toList ∧
      english.addSuffix "Monarch".toList ['s'] = "Monarchs".toList ∧
      english.addSuffix "sTARCH".toList ['s'] = "sTARCHes".toList ∧
      english.addSuffix "Cherry".toList ['s'] = "Cherries".toList := by
  have monarch : Text.IsLetters "Monarch".toList := by decide
  have starch : Text.IsLetters "sTARCH".toList := by decide
  have cherry : Text.IsLetters "Cherry".toList := by decide
  refine ⟨monarch, starch, cherry, ?_, ?_, ?_⟩
  · rw [english_addSuffix_s monarch]
    decide
  · rw [english_addSuffix_s starch]
    decide
  · rw [english_addSuffix_s cherry]
    decide

end Orthography
end Stenotype
