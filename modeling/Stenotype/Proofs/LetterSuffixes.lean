import Stenotype.Proofs.CapsMode
import Stenotype.Proofs.CaseBlind
import Stenotype.Proofs.Stems

/-!
# Suffixes of letters

A suffix of letters is one command, and joins a word of letters by the rules, in capitals or as it is
written. What differs at the end of the word is taken back and typed again; that comes to the end of
the new word, as far back as the rules reach, however much of it was the same.
-/

set_option autoImplicit false

namespace Stenotype

namespace Text

def IsLetters (s : Text) : Prop := ∀ c ∈ s, c.isAlpha = true

instance (s : Text) : Decidable (IsLetters s) := List.decidableBAll _ s

theorem isAscii_of_isAlpha {c : Char} (letter : c.isAlpha = true) : isAscii c = true := by
  rcases Bool.or_eq_true_iff.1 letter with large | small
  · have most : c.toNat ≤ 90 := (of_decide_eq_true large).2
    exact decide_eq_true (by omega)
  · exact isAscii_of_isLower small

theorem isPlain_of_isAlpha {c : Char} (letter : c.isAlpha = true) : isPlain c = true := by
  have all : ∀ n < 0x80, (Char.ofNat n).isAlpha = true → isPlain (Char.ofNat n) = true := by
    decide +kernel
  exact forall_ascii (P := fun c => c.isAlpha = true → isPlain c = true) all
    (isAscii_of_isAlpha letter) letter

namespace IsLetters
variable {s t : Text}

theorem ascii (h : IsLetters s) : ∀ c ∈ s, isAscii c = true := fun c mem =>
  isAscii_of_isAlpha (h c mem)

theorem plain (h : IsLetters s) : ∀ c ∈ s, isPlain c = true := fun c mem =>
  isPlain_of_isAlpha (h c mem)

theorem no_caret (h : IsLetters s) : '^' ∉ s := by
  intro mem
  cases h '^' mem

theorem no_space (h : IsLetters s) : ' ' ∉ s := by
  intro mem
  cases h ' ' mem

theorem left (h : IsLetters (s ++ t)) : IsLetters s := fun c mem => h c (List.mem_append_left t mem)

theorem right (h : IsLetters (s ++ t)) : IsLetters t := fun c mem => h c (List.mem_append_right s mem)

theorem asciiUpper (h : IsLetters s) : IsLetters (asciiUpper s) := by
  intro c mem
  obtain ⟨d, here, rfl⟩ := List.mem_map.1 mem
  rw [Char.isAlpha_toUpper_eq_isAlpha]
  exact h d here

theorem upper (h : IsLetters s) : upper s = Text.asciiUpper s := upper_of_ascii h.ascii

theorem rightmostWord (h : IsLetters s) : rightmostWord s = s :=
  rightmostWord_of_no_blank (Atom.isBlank_of_plain h.plain)

theorem capitalizeFirst (h : IsLetters s) : IsLetters (capitalizeFirst s) ∧
    Text.asciiUpper (Text.capitalizeFirst s) = Text.asciiUpper s := by
  cases s with
  | nil => exact ⟨h, rfl⟩
  | cons c r =>
    obtain ⟨first, others⟩ := List.forall_mem_cons.1 h
    have capital : Text.capitalizeFirst (c :: r) = c.toUpper :: r := by
      rw [Text.capitalizeFirst, upperChar_of_ascii (isAscii_of_isAlpha first)]
      rfl
    rw [capital]
    refine ⟨List.forall_mem_cons.2 ⟨?_, others⟩, ?_⟩
    · rw [Char.isAlpha_toUpper_eq_isAlpha]
      exact first
    · simp [Text.asciiUpper]

end IsLetters

/-- What differs is taken back and typed again: the end of the text is the new word, as far back as
the old one was looked at. -/
theorem retype {n : Nat} {old new : Text} (stem : KeepsStem n old new) (front : Text) :
    dropLast (old.length - commonLength old new) (front ++ takeLast n old) ++
      new.drop (commonLength old new) = front ++ new.drop (old.length - n) := by
  have common := commonLength_le_left old new
  have bound := stem.common
  have short : old.length - commonLength old new ≤ (takeLast n old).length := by
    rw [takeLast, List.length_drop]
    omega
  have kept : dropLast (old.length - commonLength old new) (takeLast n old) =
      (new.take (commonLength old new)).drop (old.length - n) := by
    rw [← take_commonLength, dropLast, takeLast, List.drop_take, List.length_drop]
    congr 1
    omega
  have rest : (new.take (commonLength old new)).drop (old.length - n) ++
      new.drop (commonLength old new) = new.drop (old.length - n) := by
    rw [← List.drop_append_of_le_length, List.take_append_drop]
    rw [List.length_take, Nat.min_eq_left (commonLength_le_right old new)]
    omega
  rw [dropLast_append_right front short, kept, List.append_assoc, rest]

theorem takeLast_suffix_retyped {n : Nat} {old new : Text} (stem : KeepsStem n old new)
    (front : Text) : takeLast n new <:+ front ++ new.drop (old.length - n) := by
  have length := stem.length
  exact (List.drop_suffix_drop_left new (by omega)).trans (List.suffix_append front _)

theorem asciiUpper_takeLast (n : Nat) (s : Text) :
    asciiUpper (takeLast n s) = takeLast n (asciiUpper s) := by
  simp [asciiUpper, takeLast, List.map_drop]

theorem asciiUpper_dropLast (n : Nat) (s : Text) :
    asciiUpper (dropLast n s) = dropLast n (asciiUpper s) := by
  simp [asciiUpper, dropLast, List.map_take]

theorem asciiUpper_drop (n : Nat) (s : Text) :
    asciiUpper (s.drop n) = (asciiUpper s).drop n := List.map_drop

theorem retype_upper {n : Nat} {old new new' : Text} (stem : KeepsStem n old new)
    (stem' : KeepsStem n (asciiUpper old) new') (same : asciiUpper new' = asciiUpper new)
    (front : Text) :
    let common := commonLength old new
    let common' := commonLength (asciiUpper old) new'
    dropLast (old.length - common') (asciiUpper (front ++ takeLast n old)) ++
        asciiUpper (new'.drop common') =
      asciiUpper (dropLast (old.length - common) (front ++ takeLast n old) ++ new.drop common) := by
  intro common common'
  have anew := retype stem' (asciiUpper front)
  rw [length_asciiUpper, ← asciiUpper_takeLast, ← asciiUpper_append] at anew
  calc dropLast (old.length - common') (asciiUpper (front ++ takeLast n old)) ++
        asciiUpper (new'.drop common')
      = asciiUpper (dropLast (old.length - common') (asciiUpper (front ++ takeLast n old)) ++
          new'.drop common') := by
        rw [asciiUpper_append _ (new'.drop common'), asciiUpper_dropLast, asciiUpper_asciiUpper]
    _ = asciiUpper (front ++ new.drop (old.length - n)) := by
        rw [anew, asciiUpper_append, asciiUpper_asciiUpper, asciiUpper_drop, same, asciiUpper_append,
          asciiUpper_drop]
    _ = _ := by rw [retype stem front]

end Text

def Text.inCase (capitals : Bool) (s : Text) : Text := if capitals then upper s else s

theorem Text.IsLetters.rightmostWord_inCase {s : Text} (letters : s.IsLetters) (capitals : Bool) :
    Text.rightmostWord (Text.inCase capitals s) = Text.inCase capitals s := by
  cases capitals
  · exact letters.rightmostWord
  · change Text.rightmostWord (Text.upper s) = Text.upper s
    rw [letters.upper, letters.asciiUpper.rightmostWord]

/-- Suffixes join the word, in capitals or as they are written. -/
structure Action.Carries (capitals : Bool) (a : Action) : Prop where
  upperCarry : a.upperCarry = capitals
  case : a.case = none
  spaceChar : a.spaceChar = [' ']
  orthography : a.orthography = true

def Action.rewriting (capitals : Bool) (old new output : Text) : Action :=
  let common := Text.commonLength old new
  { text := Text.inCase capitals (new.drop common)
    word := Text.inCase capitals (Text.rightmostWord new)
    replace := Text.takeLast (old.length - common) output
    prevAttach := true
    upperCarry := capitals }

theorem Affix.ofText_suffix {s : Text} (letters : s.IsLetters) (ne : s ≠ []) :
    ofText ('^' :: s) = ⟨true, false, s⟩ := by
  have cut : Text.beforeEnd? ['^'] s = none := by
    refine Option.eq_none_iff_forall_ne_some.2 fun r ends => letters.no_caret ?_
    rw [Text.beforeEnd?_eq_some_iff.1 ends]
    exact List.mem_append_right r (List.mem_singleton_self '^')
  simp only [ofText, cutEnd, cut, Bool.false_or, List.isEmpty_eq_false_iff.2 ne]

theorem Command.ofText?_suffix {s : Text} (letters : s.IsLetters) (ne : s ≠ []) :
    ofText? ('^' :: s) = some (.attach ('^' :: s)) := by
  obtain ⟨c, r, rfl⟩ := List.exists_cons_of_ne_nil ne
  have other : c ≠ '~' := by
    rintro rfl
    cases letters '~' (List.mem_cons_self ..)
  have carry : carry? ('^' :: c :: r) = none := by simp [carry?, other]
  have rest : ofText? ('^' :: c :: r) = (carry? ('^' :: c :: r) <|> attach? ('^' :: c :: r)) := rfl
  rw [rest, carry]
  rfl

namespace Context
variable {c : Context} {capitals : Bool}

theorem newAction_of_carries (carries : c.last.Carries capitals) : c.newAction = {} := by
  rw [newAction, Action.following, carries.case, carries.spaceChar]

theorem wordTail_before (before : c.placement = .before) (n : Nat) :
    c.wordTail n = Text.takeLast n c.output :=
  wordTail_eq (by rw [pendingSeparator_before before, List.append_nil]) n

theorem rewriteWord_of_carry (before : c.placement = .before)
    (carry : c.last.upperCarry = capitals) (content : Text) :
    let made := Action.rewriting capitals c.last.word (c.orthography.addSuffix c.last.word content)
      c.output
    c.rewriteWord { prevAttach := true } content = ({ made with text := [] }, made.text) := by
  let new := c.orthography.addSuffix c.last.word content
  let replaced := c.last.word.length - Text.commonLength c.last.word new
  have replace : (if replaced = 0 then ({ prevAttach := true } : Action)
      else { prevAttach := true, replace := c.wordTail replaced }) =
        { prevAttach := true, replace := Text.takeLast replaced c.output } := by
    by_cases none : replaced = 0
    · rw [if_pos none, none, Text.takeLast, Nat.sub_zero, List.drop_length]
    · rw [if_neg none, wordTail_before before]
  intro made
  simp only [rewriteWord, carry]
  change (let a := (if replaced = 0 then ({ prevAttach := true } : Action)
      else { prevAttach := true, replace := c.wordTail replaced }); _) = _
  rw [replace]
  cases capitals <;> rfl

theorem suffix_of_carries (before : c.placement = .before) (carries : c.last.Carries capitals)
    {x : Affix} (rules : c.usesOrthography x = true) :
    c.suffix { prevAttach := true } x = Action.rewriting capitals c.last.word
      (c.orthography.addSuffix c.last.word x.content) c.output := by
  rw [suffix, rules, if_pos rfl, rewriteWord_of_carry before carries.upperCarry]
  dsimp only
  rw [applyModes_of_default rfl rfl, place, before]
  rfl

theorem attach_suffix (plain : c.newAction = {}) {s : Text} (letters : s.IsLetters) (ne : s ≠ []) :
    c.attach ('^' :: s) = c.suffix { prevAttach := true } ⟨true, false, s⟩ := by
  rw [attach, Affix.ofText_suffix letters ne, plain]
  simp only [List.isEmpty_eq_false_iff.2 ne, Bool.false_eq_true, ↓reduceIte, Bool.not_true]
  rfl

theorem usesOrthography_of_carries (carries : c.last.Carries capitals) (word : c.last.word ≠ [])
    {s : Text} (letters : s.IsLetters) (ne : s ≠ []) : c.usesOrthography ⟨true, false, s⟩ = true := by
  obtain ⟨d, r, rfl⟩ := List.exists_cons_of_ne_nil ne
  have ink := Atom.isBlank_of_plain letters.plain d (List.mem_cons_self ..)
  simp [usesOrthography, word, carries.orthography, Text.isAllBlank, ink]

end Context

theorem Style.resolve_suffix (style : Style) {t : Translation} {s : Text}
    (english : t.english = some ('\x7b' :: '^' :: (s ++ ['\x7d']))) (ne : s ≠ [])
    (letters : s.IsLetters) {last : Action} (plain : last.following = {}) (output : Text) :
    style.resolve last output t =
      [.resolved (Context.suffix ⟨style, last, output⟩ { prevAttach := true } ⟨true, false, s⟩)] := by
  have bare : Atom.IsBare ('^' :: s) :=
    Atom.isBare_of_plain (List.forall_mem_cons.2 ⟨by decide, letters.plain⟩)
  refine style.resolve_braced (m := '^' :: s) english bare (Command.ofText?_suffix letters ne) ?_
  rw [Command.apply, Context.attach_suffix (c := ⟨style, last, output⟩) plain letters ne]

namespace Orthography

theorem isLetters_literals_english {r : SuffixRule} (h : r ∈ english.rules) :
    r.template.literals.IsLetters := fun c mem =>
  Bool.or_eq_true_iff.2 (.inr (literals_english h c mem))

/-- Of letters the rules make letters, and they keep the stem. -/
theorem addSuffix_of_letters {o : Orthography} {n : Nat} (keeps : o.keepsStems n = true)
    (small : ∀ r ∈ o.rules, r.template.literals.IsLetters) {word suffix : Text}
    (letters : word.IsLetters) (letters' : suffix.IsLetters) :
    Text.KeepsStem n word (o.addSuffix word suffix) ∧ (o.addSuffix word suffix).IsLetters := by
  obtain ⟨stem, among⟩ := o.keepsStem_addSuffix keeps letters.no_space letters'.no_caret
  refine ⟨stem, fun c mem => ?_⟩
  rcases among c mem with ⟨r, hr, literal⟩ | mem | mem
  · exact small r hr c literal
  · exact letters c mem
  · exact letters' c mem

end Orthography
end Stenotype
