import Stenotype.Proofs.Matching
import Stenotype.Proofs.Placement

/-!
# The end of the output

A suffix takes back by count what the rules change in the last word, so that word has to be the end
of the output, up to the separator that is pending. Text that is placed with ink at its end and its
word in it leaves the output so, and so does text at the end that is typed anew.
-/

set_option autoImplicit false

namespace Stenotype

theorem Text.endsInInk_trimEnd (s : Text) : trimEnd s = [] ∨ endsInInk (trimEnd s) = true := by
  rw [trimEnd]
  cases h : s.reverse.dropWhile isBlank with
  | nil => exact .inl rfl
  | cons d r =>
    refine .inr ?_
    have dark := List.head_dropWhile_not isBlank (l := s.reverse) (by rw [h]; exact List.cons_ne_nil d r)
    simp only [h, List.head_cons] at dark
    rw [List.reverse_cons]
    exact endsInInk_iff.2 ⟨r.reverse, d, rfl, dark⟩

theorem Text.endsInInk_substitute (d : Char) {new s : Text} (new_ink : endsInInk new = true)
    (ink : endsInInk s = true) : endsInInk (substitute d new s) = true := by
  obtain ⟨r, e, rfl, dark⟩ := endsInInk_iff.1 ink
  rw [substitute_append]
  refine endsInInk_append _ ?_
  rw [substitute, List.flatMap_singleton]
  split
  · exact new_ink
  · exact endsInInk_iff.2 ⟨[], e, rfl, dark⟩

namespace Decimal

theorem endsInInk_digit {d : Char} (digit : d.isDigit = true) : Text.endsInInk [d] = true := by
  have all : ∀ n < 0x80, (Char.ofNat n).isDigit = true →
      Text.endsInInk [Char.ofNat n] = true := by
    decide +kernel
  refine Text.forall_ascii (P := fun d => d.isDigit = true → Text.endsInInk [d] = true) all ?_ digit
  simp only [Char.isDigit, ge_iff_le, Bool.and_eq_true, decide_eq_true_eq] at digit
  exact decide_eq_true (Nat.lt_of_le_of_lt (UInt32.le_iff_toNat_le.1 digit.2) (by decide))

theorem endsInInk_ofNat (n : Nat) : Text.endsInInk (Text.ofNat n) = true := by
  obtain ⟨r, d, digits⟩ := (List.eq_nil_or_concat _).resolve_left (Nat.toDigits_ne_nil (b := 10) (n := n))
  rw [List.concat_eq_append] at digits
  have digit : d.isDigit = true :=
    Nat.isDigit_of_mem_toDigits (b := 10) (n := n) (by decide) (by decide) (by rw [digits]; simp)
  rw [Text.ofNat, digits]
  exact Text.endsInInk_append _ (endsInInk_digit digit)

theorem endsInInk_ofInt (i : Int) : Text.endsInInk (ofInt i) = true := by
  cases i with
  | ofNat n => exact endsInInk_ofNat n
  | negSucc n => exact Text.endsInInk_append ['-'] (endsInInk_ofNat (n + 1))

theorem endsInInk_twoPlaces? {s : Scientific} {t : Text} (h : twoPlaces? s = some t) :
    Text.endsInInk t = true := by
  obtain ⟨b, -, rfl⟩ := Option.map_eq_some_iff.1 h
  exact Text.endsInInk_append _ (Text.endsInInk_append _ (endsInInk_ofNat _))

theorem endsInInk_group {s : Text} (ink : Text.endsInInk s = true) :
    Text.endsInInk (group s) = true := by
  induction s with
  | nil => exact ink
  | cons d r ih =>
    cases r with
    | nil => simpa [group] using ink
    | cons e r =>
      have rest := ih (Text.endsInInk_of_suffix (List.suffix_cons d _) (List.cons_ne_nil e r) ink)
      rw [group]
      split
      · exact Text.endsInInk_append [d, ','] rest
      · exact Text.endsInInk_append [d] rest

theorem endsInInk_groupSigned {s : Text} (ink : Text.endsInInk s = true) :
    Text.endsInInk (groupSigned s) = true := by
  have grouped (sign : Text) {unsigned : Text} (ink : Text.endsInInk unsigned = true) :
      let whole := unsigned.takeWhile (· ≠ '.')
      Text.endsInInk (sign ++ group whole ++ unsigned.drop whole.length) = true := by
    intro whole
    by_cases rest : unsigned.drop whole.length = []
    · have all : whole = unsigned := by
        have parts := List.takeWhile_append_dropWhile (p := (· ≠ '.')) (l := unsigned)
        have le : whole.length ≤ unsigned.length := by
          rw [← parts, List.length_append]
          exact Nat.le_add_right _ _
        have ge := List.drop_eq_nil_iff.1 rest
        exact (List.takeWhile_prefix _).eq_of_length (Nat.le_antisymm le ge)
      rw [rest, List.append_nil, all]
      exact Text.endsInInk_append _ (endsInInk_group ink)
    · exact Text.endsInInk_append _
        (Text.endsInInk_of_suffix (List.drop_suffix _ _) rest ink)
  unfold groupSigned
  split
  next sign unsigned parts =>
  split at parts
  · next r =>
    cases parts
    by_cases none : unsigned = []
    · rw [none]
      rfl
    · exact grouped ['-'] (Text.endsInInk_of_suffix (List.suffix_cons '-' _) none ink)
  · cases parts
    exact grouped [] ink

end Decimal

namespace Context

theorem endsInInk_amount? {number amount : Text} (h : amount? number = some amount) :
    Text.endsInInk amount = true := by
  have fraction {t : Text} (h : ((Decimal.scientific? number).bind Decimal.twoPlaces?).map
      Decimal.groupSigned = some t) : Text.endsInInk t = true := by
    obtain ⟨places, found, rfl⟩ := Option.map_eq_some_iff.1 h
    obtain ⟨n, -, found⟩ := Option.bind_eq_some_iff.1 found
    exact Decimal.endsInInk_groupSigned (Decimal.endsInInk_twoPlaces? found)
  unfold amount? at h
  split at h
  · split at h
    · cases h
      exact Decimal.endsInInk_groupSigned (Decimal.endsInInk_ofInt _)
    · exact fraction h
  · exact fraction h

def step (c : Context) (a : Action) : Context := { c with last := a, output := a.edit c.output }

/-- `core` is the output without the separator that is pending, and it ends with the last word. -/
structure EndsWithWord (c : Context) (core : Text) : Prop where
  output : c.output = core ++ c.pendingSeparator
  word : c.last.word <:+ core
  ink : c.output = [] ∨ Text.endsInInk core = true

/-- The output ends with the last word, up to the separator that is pending. -/
def IsFirm (c : Context) : Prop := ∃ core, c.EndsWithWord core

variable {c : Context}

theorem pendingSeparator_cases (space : c.last.spaceChar = [' ']) :
    c.pendingSeparator = [] ∨
      c.pendingSeparator = [' '] ∧ c.placement = .after ∧ c.last.nextAttach = false := by
  unfold pendingSeparator
  split
  · next h => exact .inr ⟨space, h.1, h.2.1⟩
  · exact .inl rfl

theorem isBlank_pendingSeparator (space : c.last.spaceChar = [' ']) :
    ∀ d ∈ c.pendingSeparator, Text.isBlank d = true := by
  rcases pendingSeparator_cases space with none | ⟨some, -⟩
  · simp [none]
  · intro d hd
    rw [some, List.mem_singleton] at hd
    rw [hd]
    rfl

theorem pendingSeparator_of_spaced (after : c.placement = .after) (space : c.last.spaceChar = [' '])
    (next : c.last.nextAttach = false) {s t : Text} (text : c.last.text = s ++ [' '])
    (output : c.output = t ++ [' ']) : c.pendingSeparator = [' '] := by
  have spaced (u : Text) : Text.endsWith [' '] (u ++ [' ']) = true :=
    List.isSuffixOf_iff_suffix.2 (List.suffix_append u [' '])
  rw [pendingSeparator, space, text, output]
  exact if_pos ⟨after, next, spaced s, spaced t⟩

theorem pendingSeparator_of_nextAttach (next : c.last.nextAttach = true) :
    c.pendingSeparator = [] := by
  simp [pendingSeparator, next]

theorem pendingSeparator_of_ink (space : c.last.spaceChar = [' '])
    (ink : c.last.text = [] ∨ Text.endsInInk c.last.text = true) : c.pendingSeparator = [] := by
  have no_space : Text.endsWith [' '] c.last.text = false := by
    rcases ink with none | ink
    · rw [none]
      rfl
    · obtain ⟨r, d, text, dark⟩ := Text.endsInInk_iff.1 ink
      refine Bool.eq_false_iff.2 fun ends => ?_
      obtain ⟨t, same⟩ := List.isSuffixOf_iff_suffix.1 ends
      have blank : ' ' = d := (List.cons.inj (List.append_inj' (same.trans text) rfl).2).1
      rw [← blank] at dark
      exact absurd dark (by decide)
  simp [pendingSeparator, space, no_space]

theorem pendingSeparator_closing (after : c.placement = .after) (space : c.last.spaceChar = [' '])
    {s t : Text} (text : c.last.text = s ++ c.last.separator)
    (output : c.output = t ++ c.last.separator) : c.pendingSeparator = c.last.separator := by
  cases next : c.last.nextAttach with
  | true =>
    rw [pendingSeparator_of_nextAttach next, Action.separator, next]
    rfl
  | false =>
    rw [Action.separator, next, if_neg Bool.false_ne_true] at text output ⊢
    exact pendingSeparator_of_spaced after space next text output

theorem place_attached_after {a : Action} {s : Text} (after : c.placement = .after)
    (space : a.spaceChar = [' ']) (attached : c.isAttached a = true) :
    c.place a s =
      { a with replace := a.replace ++ c.pendingSeparator, text := s ++ a.separator } := by
  cases next : a.nextAttach <;> simp [place, after, attached, space, next, Action.separator]

theorem edit_place_attached {a : Action} (base s : Text) (space : a.spaceChar = [' '])
    (attached : c.isAttached a = true)
    (output : c.output = base ++ a.replace ++ c.pendingSeparator) :
    (c.place a s).edit c.output =
      base ++ s ++ if c.placement = .after then a.separator else [] := by
  cases placement : c.placement with
  | before =>
    have placed : c.place a s = { a with text := s } := by
      simp [place, placement, attached]
    rw [pendingSeparator_before placement, List.append_nil] at output
    rw [placed, Action.edit, output, Text.dropLast_append_length, if_neg (by decide),
      List.append_nil]
  | after =>
    -- the separator that was pending goes with what `a` takes back anyway
    rw [place_attached_after placement space attached, Action.edit, output, List.append_assoc,
      Text.dropLast_append_length, List.append_assoc, if_pos rfl]

theorem output_place_attached {a : Action} (base s : Text) (space : a.spaceChar = [' '])
    (attached : c.isAttached a = true)
    (output : c.output = base ++ a.replace ++ c.pendingSeparator) :
    let d := c.step (c.place a s)
    d.output = base ++ s ++ d.pendingSeparator := by
  intro d
  have edited := edit_place_attached base s space attached output
  cases placement : c.placement with
  | before =>
    have none : d.pendingSeparator = [] := pendingSeparator_before placement
    rw [placement, if_neg (by decide)] at edited
    rw [none]
    exact edited
  | after =>
    rw [placement, if_pos rfl] at edited
    have last := place_attached_after placement space attached (s := s)
    change d.last = _ at last
    have pending : d.pendingSeparator = d.last.separator :=
      pendingSeparator_closing placement (by rw [last]; exact space) (by rw [last]; rfl)
        (by rw [last]; exact edited)
    rw [pending, last]
    exact edited

theorem output_place_apart {a : Action} (s : Text) (space : a.spaceChar = [' '])
    (apart : c.isAttached a = false) (kept : a.replace = []) :
    let d := c.step (c.place a s)
    ∃ base, d.output = base ++ s ++ d.pendingSeparator := by
  intro d
  cases placement : c.placement with
  | before =>
    refine ⟨c.output ++ [' '], ?_⟩
    have none : d.pendingSeparator = [] := pendingSeparator_before placement
    have placed : c.place a s = { a with text := ' ' :: s } := by
      simp [place, placement, apart, space]
    rw [none, List.append_nil]
    change (c.place a s).edit c.output = _
    rw [placed, Action.edit, kept, List.length_nil, Text.dropLast_zero, List.append_assoc]
    rfl
  | after =>
    refine ⟨c.output, ?_⟩
    have last : d.last = { a with text := s ++ a.separator } := by
      change c.place a s = _
      cases next : a.nextAttach <;>
        simp [place, placement, apart, space, next, Action.separator]
    have output : d.output = c.output ++ s ++ a.separator := by
      change d.last.edit c.output = _
      rw [last, Action.edit, kept, List.length_nil, Text.dropLast_zero, List.append_assoc]
    have pending : d.pendingSeparator = d.last.separator :=
      pendingSeparator_closing placement (by rw [last]; exact space) (by rw [last]; rfl)
        (by rw [output, last]; rfl)
    rw [output, pending, last]
    rfl

@[simp] theorem word_place (a : Action) (s : Text) : (c.place a s).word = a.word := by
  unfold place
  split <;> rfl

@[simp] theorem upper_place (a : Action) (s : Text) : (c.place a s).upper = a.upper := by
  unfold place
  split <;> rfl

@[simp] theorem upperCarry_place (a : Action) (s : Text) :
    (c.place a s).upperCarry = a.upperCarry := by
  unfold place
  split <;> rfl

@[simp] theorem case_place (a : Action) (s : Text) : (c.place a s).case = a.case := by
  unfold place
  split <;> rfl

@[simp] theorem spaceChar_place (a : Action) (s : Text) : (c.place a s).spaceChar = a.spaceChar := by
  unfold place
  split <;> rfl

@[simp] theorem nextAttach_place (a : Action) (s : Text) :
    (c.place a s).nextAttach = a.nextAttach := by
  unfold place
  split <;> rfl

theorem isFirm_place_attached {a : Action} {s : Text} (base : Text) (space : a.spaceChar = [' '])
    (attached : c.isAttached a = true)
    (output : c.output = base ++ a.replace ++ c.pendingSeparator) (word : a.word <:+ base ++ s)
    (ink : Text.endsInInk (base ++ s) = true) : (c.step (c.place a s)).IsFirm :=
  ⟨base ++ s, output_place_attached base s space attached output, by rw [step, word_place]; exact word,
    .inr ink⟩

theorem isFirm_place_own {a : Action} {s : Text} (space : a.spaceChar = [' ']) (kept : a.replace = [])
    (word : a.word <:+ s) (ink : Text.endsInInk s = true) : (c.step (c.place a s)).IsFirm := by
  cases attached : c.isAttached a with
  | true =>
    obtain ⟨base, output⟩ := c.pendingSeparator_suffix
    refine isFirm_place_attached base space attached ?_
      (List.suffix_append_of_suffix word) (Text.endsInInk_append _ ink)
    rw [kept, List.append_nil, output]
  | false =>
    obtain ⟨base, output⟩ := output_place_apart s space attached kept
    exact ⟨base ++ s, output, by rw [step, word_place]; exact List.suffix_append_of_suffix word,
      .inr (Text.endsInInk_append _ ink)⟩

theorem IsFirm.place_joined (h : c.IsFirm) {a : Action} {s : Text} (space : a.spaceChar = [' '])
    (attached : c.isAttached a = true) (kept : a.replace = []) (word : a.word <:+ c.last.word ++ s)
    (ink : Text.endsInInk s = true) : (c.step (c.place a s)).IsFirm := by
  obtain ⟨core, here⟩ := h
  refine isFirm_place_attached core space attached ?_
    (word.trans (List.suffix_append_self_iff.2 here.word)) (Text.endsInInk_append _ ink)
  rw [kept, List.append_nil]
  exact here.output

theorem IsFirm.silent (h : c.IsFirm) {a : Action} (none : c.pendingSeparator = [])
    (text : a.text = []) (replace : a.replace = []) (word : a.word = c.last.word)
    (space : a.spaceChar = [' ']) : (c.step a).IsFirm := by
  obtain ⟨core, here⟩ := h
  have output : (c.step a).output = c.output := by
    change a.edit c.output = _
    rw [Action.edit, text, replace, List.length_nil, Text.dropLast_zero, List.append_nil]
  have pending : (c.step a).pendingSeparator = [] := pendingSeparator_of_ink space (.inl text)
  refine ⟨core, ?_, ?_, ?_⟩
  · rw [output, pending, here.output, none]
  · rw [step, word]
    exact here.word
  · rw [output]
    exact here.ink

theorem isFirm_retype {a : Action} {front removed t : Text} (space : c.last.spaceChar = [' '])
    (output : c.output = front ++ removed ++ c.pendingSeparator) (space' : a.spaceChar = [' '])
    (next : a.nextAttach = c.last.nextAttach) (replace : a.replace = removed ++ c.pendingSeparator)
    (text : a.text = t ++ c.pendingSeparator) (word : a.word <:+ front ++ t)
    (ink : Text.endsInInk t = true) : (c.step a).IsFirm := by
  have output' : (c.step a).output = front ++ t ++ c.pendingSeparator := by
    change a.edit c.output = _
    rw [Action.edit, output, replace, text, List.append_assoc, Text.dropLast_append_length,
      List.append_assoc]
  -- what was pending is pending again, now as the end of what `a` types
  have pending : (c.step a).pendingSeparator = c.pendingSeparator := by
    rcases pendingSeparator_cases space with none | ⟨some, after, open_end⟩
    · rw [none] at text ⊢
      exact pendingSeparator_of_ink space' (.inr (by
        change Text.endsInInk a.text = true
        rw [text, List.append_nil]
        exact ink))
    · rw [some] at text output' ⊢
      exact pendingSeparator_of_spaced after space' (next.trans open_end) text output'
  exact ⟨front ++ t, by rw [output', pending], word, .inr (Text.endsInInk_append _ ink)⟩

theorem EndsWithWord.lastWordWithTail? {core : Text} (h : c.EndsWithWord core)
    (space : c.last.spaceChar = [' ']) :
    (c.output = [] ∧ c.lastWordWithTail? = none) ∨
      ∃ front w, core = front ++ w ∧ c.lastWordWithTail? = some (w, c.pendingSeparator) ∧
        Text.endsInInk w = true := by
  have blank := isBlank_pendingSeparator space
  rcases h.ink with nothing | ink
  · refine .inl ⟨nothing, ?_⟩
    rw [Context.lastWordWithTail?, nothing]
    rfl
  · obtain ⟨front, w, rfl, last, ne, dark⟩ := Text.getLast?_words ink blank
    refine .inr ⟨front, w, rfl, ?_, Text.endsInInk_of_ink ne dark⟩
    rw [Context.lastWordWithTail?, h.output, last, Text.trailingBlanks_append (.inr ink) blank]
    rfl

theorem renderWord_eq {a : Action} (ordinary : a.IsOrdinary) (s : Text) :
    let attached := c.isAttached a
    let typed := c.applyOneShot s attached
    let word := Text.rightmostWord typed
    c.renderWord a s = c.place
      { a with
        word := if a.glue && attached then c.last.word ++ word else word
        upperCarry := c.wantsUpper attached } typed := by
  rw [renderWord, applyModes_of_default ordinary.case ordinary.spaceChar]

theorem ifNextMatches_eq_ok {args : Text} {l : LookAhead} (h : c.ifNextMatches args = .ok l) :
    ∃ pattern matched unmatched, splitArguments args = [pattern, matched, unmatched] ∧
      l.matched = c.alternative matched ∧ l.unmatched = c.alternative unmatched := by
  unfold ifNextMatches at h
  split at h
  · next pattern matched unmatched parts =>
    split at h
    · cases h
      exact ⟨pattern, matched, unmatched, parts, rfl, rfl⟩
    · cases h
  · cases h

theorem suffix_eq_of_rules (carry : c.last.upperCarry = false) {a : Action} (case : a.case = none)
    (space : a.spaceChar = [' ']) (kept : a.replace = []) {x : Affix} (rules : c.usesOrthography x = true) :
    let new := c.orthography.addSuffix c.last.word x.content
    let common := Text.commonLength c.last.word new
    c.suffix a x = c.place
      { a with
        replace := c.wordTail (c.last.word.length - common), word := Text.rightmostWord new }
      (new.drop common) := by
  intro new common
  rw [suffix, rules, if_pos rfl, rewriteWord_eq carry kept]
  exact congrArg (c.place _) (applyModes_of_default case space ..)

/-- A suffix by the rules puts the new word where the old one stood: what comes after the letters
that both have in common is taken back and typed. -/
theorem suffix_puts_word (carry : c.last.upperCarry = false) {a : Action} (case : a.case = none)
    (space : a.spaceChar = [' ']) (kept : a.replace = []) (attaches : a.prevAttach = true) {x : Affix}
    (rules : c.usesOrthography x = true) {front : Text}
    (output : c.output = front ++ c.last.word ++ c.pendingSeparator) :
    let old := c.last.word
    let new := c.orthography.addSuffix old x.content
    let common := Text.commonLength old new
    let b : Action := { a with replace := old.drop common, word := Text.rightmostWord new }
    c.suffix a x = c.place b (new.drop common) ∧ c.isAttached b = true ∧
      c.output = front ++ old.take common ++ b.replace ++ c.pendingSeparator ∧
      front ++ old.take common ++ new.drop common = front ++ new := by
  intro old new common b
  have taken : c.wordTail (old.length - common) = old.drop common := by
    rw [wordTail_eq output, Text.takeLast_append_right _ (Nat.sub_le _ _),
      Text.takeLast_length_sub (Text.commonLength_le_left old new)]
  refine ⟨?_, ?_, ?_, ?_⟩
  · rw [suffix_eq_of_rules carry case space kept rules, taken]
  · simp [isAttached, b, attaches]
  · rw [List.append_assoc front, List.take_append_drop]
    exact output
  · rw [Text.take_commonLength, List.append_assoc, List.take_append_drop]

theorem suffix_eq_of_no_rules {a : Action} (ordinary : a.IsOrdinary) {x : Affix}
    (rules : c.usesOrthography x = false) :
    let typed := c.applyOneShot x.content true
    c.suffix a x = c.place
      { a with
        upperCarry := c.wantsUpper true, word := Text.rightmostWord (c.last.word ++ typed) }
      typed := by
  intro typed
  rw [suffix, rules, if_neg Bool.false_ne_true, extendWord]
  exact congrArg (c.place _) (applyModes_of_default ordinary.case ordinary.spaceChar ..)

theorem endsInInk_applyOneShot {s : Text} (attached : Bool) (ink : Text.endsInInk s = true) :
    Text.endsInInk (c.applyOneShot s attached) = true := by
  have lower : Text.endsInInk (if c.last.lower then Text.lowerFirst s else s) = true := by
    split
    · exact Text.endsInInk_lowerFirst ink
    · exact ink
  have capital : ∀ {t}, Text.endsInInk t = true →
      Text.endsInInk (if c.last.capitalize then Text.capitalizeFirst t else t) = true := by
    intro t ink
    split
    · exact Text.endsInInk_capitalizeFirst ink
    · exact ink
  rw [applyOneShot]
  split
  · exact Text.endsInInk_upper (capital lower)
  · exact capital lower

theorem ink_applyOneShot {s : Text} (attached : Bool) (ink : ∀ d ∈ s, Text.isBlank d = false) :
    ∀ d ∈ c.applyOneShot s attached, Text.isBlank d = false := by
  have lower : ∀ d ∈ (if c.last.lower then Text.lowerFirst s else s), Text.isBlank d = false := by
    split
    · exact Text.ink_lowerFirst ink
    · exact ink
  have capital : ∀ {t : Text}, (∀ d ∈ t, Text.isBlank d = false) →
      ∀ d ∈ (if c.last.capitalize then Text.capitalizeFirst t else t), Text.isBlank d = false := by
    intro t ink
    split
    · exact Text.ink_capitalizeFirst ink
    · exact ink
  rw [applyOneShot]
  split
  · exact Text.ink_flatMap Text.keepsInk_upperChar (capital lower)
  · exact capital lower

end Context

end Stenotype
