import Stenotype.Orthography.Spanish
import Stenotype.Proofs.Placement
import Stenotype.Proofs.RuleParts
import Stenotype.Proofs.ShortestEdit

/-!
# How much of a word stays

What a rule makes begins with the stem that its group took. What comes after the stem in the word is
dropped, but for characters that the template types again at once. So a word loses a few characters at
its end at most, and an attached suffix takes back no more of it.
-/

set_option autoImplicit false

namespace Stenotype

namespace Text

def IsSmall (s : Text) : Prop := ∀ c ∈ s, isAscii c = true ∧ c.isUpper = false

instance (s : Text) : Decidable (IsSmall s) := List.decidableBAll _ s

theorem eq_of_small_variant {c d : Char} (small : c.isLower = true) (ascii : isAscii d = true)
    (small' : d.isUpper = false) (mem : c ∈ variants d) : d = c := by
  have all : ∀ n < 0x80, (Char.ofNat n).isUpper = false →
      (variants (Char.ofNat n)).all (fun c => !c.isLower || Char.ofNat n = c) = true := by
    decide +kernel
  have only := forall_ascii (P := fun d => d.isUpper = false →
    (variants d).all (fun c => !c.isLower || d = c) = true) all ascii small'
  simpa [small] using List.all_eq_true.1 only c mem

theorem dropLast_prefix {n : Nat} {u v : Text} (few : v.length ≤ n) : dropLast n (u ++ v) <+: u := by
  rw [dropLast, List.length_append, List.take_append_of_le_length (by omega)]
  exact List.take_prefix _ u

end Text

open Pattern

namespace Pattern.Regex

/-- How many of the first characters that are dropped the template types again at once, if there are
no capitals among them. -/
def respelled : Regex → Template → Nat
  | seq (char s) r, .literal c :: t => if c.isLower && s.isOnly c then r.respelled t + 1 else 0
  | _, _ => 0

theorem Takes.respelled {before : Regex} {back v rest : Text} (h : before.Takes back v rest)
    (small : Text.IsSmall v) (t : Template) :
    ∃ again lost others, v = again ++ lost ∧ t = again.map .literal ++ others ∧
      again.length = before.respelled t := by
  fun_induction Regex.respelled before t generalizing back v with
  | case1 s r c t only ih =>
    obtain ⟨lower, only⟩ := Bool.and_eq_true_iff.1 only
    obtain ⟨_, w, rfl, ⟨d, rfl, mem⟩, later⟩ := h
    obtain ⟨⟨ascii, small⟩, rest⟩ := List.forall_mem_cons.1 small
    obtain rfl := Text.eq_of_small_variant lower ascii small ((CharSet.mem_of_isOnly only d).1 mem)
    obtain ⟨again, lost, others, rfl, rfl, length⟩ := ih later rest
    exact ⟨d :: again, lost, others, rfl, rfl, by rw [List.length_cons, length]⟩
  | case2 => exact ⟨[], v, _, rfl, rfl, rfl⟩
  | case3 => exact ⟨[], v, _, rfl, rfl, rfl⟩

end Pattern.Regex

namespace SuffixRule

/-- How many characters at the end of a word may not be in the result any more, if that is known. -/
def mostLost? (r : SuffixRule) (small : Bool) : Option Nat :=
  match r.pattern.program.regex.parts?, r.template with
  | some (_, before, _), .group ['1'] :: t =>
    before.mostLength?.map fun most => if small then most - before.respelled t else most
  | _, _ => none

theorem dropLast_prefix_of_join? {r : SuffixRule} {small : Bool} {n : Nat}
    (lost : (r.mostLost? small).any (· ≤ n) = true) {word suffix : Text} (plain : ' ' ∉ word)
    (plain' : '^' ∉ suffix) (noCapitals : small = true → Text.IsSmall word) {new : Text}
    (joined : r.join? word suffix = some new) : Text.dropLast n word <+: new := by
  obtain ⟨m, known, le⟩ := (Option.any_eq_true ..).1 lost
  unfold mostLost? at known
  split at known
  · next stem before after t parts template =>
    obtain ⟨most, longest, rfl⟩ := Option.map_eq_some_iff.1 known
    obtain ⟨u, v, group, rfl, here, few, taken, rfl⟩ := parts_of_join? parts plain plain' joined
    have few := few most longest
    rw [template, Template.expand_group_cons, taken]
    cases small with
    | false =>
      exact (Text.dropLast_prefix (Nat.le_trans few (of_decide_eq_true le))).trans
        (List.prefix_append u _)
    | true =>
      have capitals : Text.IsSmall v := fun c mem => noCapitals rfl c (List.mem_append_right u mem)
      -- What is typed again goes to the stem, and only the rest of what is dropped is lost.
      obtain ⟨again, lost, others, rfl, rfl, length⟩ := here.dropped.respelled capitals t
      rw [if_pos rfl, decide_eq_true_eq, ← length] at le
      rw [List.length_append] at few
      rw [Template.expand_append, Template.expand_literals, ← List.append_assoc, ← List.append_assoc]
      exact (Text.dropLast_prefix (by omega)).trans (List.prefix_append _ _)
  · cases known

end SuffixRule

namespace Context

theorem length_wordTail_le (c : Context) (n : Nat) : (c.wordTail n).length ≤ n := by
  obtain ⟨s, output⟩ := c.pendingSeparator_suffix
  rw [wordTail_eq output.symm, Text.takeLast, List.length_drop]
  omega

end Context

namespace Orthography

/-- No rule takes more than `n` characters from the end of a word, or of one without capitals. -/
def losesFew (o : Orthography) (small : Bool) (n : Nat) : Bool :=
  o.rules.all fun r => (r.mostLost? small).any (· ≤ n)

theorem dropLast_prefix_addSuffix {o : Orthography} {small : Bool} {n : Nat}
    (few : o.losesFew small n = true) {word suffix : Text} (plain : ' ' ∉ word) (plain' : '^' ∉ suffix)
    (noCapitals : small = true → Text.IsSmall word) :
    Text.dropLast n word <+: o.addSuffix word suffix := by
  unfold addSuffix
  cases joined : o.rules.findSome? fun r => r.join? word suffix with
  | none => exact (List.take_prefix _ word).trans (List.prefix_append word suffix)
  | some new =>
    obtain ⟨r, hr, here⟩ := List.exists_of_findSome?_eq_some joined
    exact SuffixRule.dropLast_prefix_of_join? (List.all_eq_true.1 few r hr) plain plain' noCapitals here

/-- All but the last `n` characters of the word stay, in what the rules make of it and in the output
when the suffix is attached. -/
structure Spares (o : Orthography) (n : Nat) (word suffix : Text) : Prop where
  result : Text.dropLast n word <+: o.addSuffix word suffix
  output : ∀ (c : Context) (atom : Text), c.orthography = o → c.last.word = word →
    c.suffix? atom = some suffix →
      ∃ a, c.resolveAtom atom = .resolved a ∧ a.replace.length ≤ n + c.pendingSeparator.length

theorem Spares.of_result {o : Orthography} {n : Nat} {word suffix : Text}
    (stays : Text.dropLast n word <+: o.addSuffix word suffix) : o.Spares n word suffix := by
  refine ⟨stays, fun c atom rules last attaches => ?_⟩
  subst rules last
  obtain ⟨a, resolved, replace⟩ := Context.replace_of_suffix? attaches
  have common := Text.le_commonLength_of_prefix (Nat.sub_le _ _) stays
  have taken := c.length_wordTail_le
    (c.last.word.length - Text.commonLength c.last.word (c.orthography.addSuffix c.last.word suffix))
  refine ⟨a, resolved, ?_⟩
  rw [replace, List.length_append]
  omega

theorem losesFew_english : (english.losesFew false 5 && english.losesFew true 2) = true := by
  unfold english englishTable
  repeat rw [ofTable_cons]
  decide +kernel

theorem losesFew_spanish : spanish.losesFew false 5 = true := by
  unfold spanish spanishTable
  repeat rw [ofTable_cons]
  decide +kernel

/-- A suffix takes five characters from the end of a word at most, and of an English word without
capitals two. -/
theorem addSuffix_spares_beginning {word suffix : Text} (plain : ' ' ∉ word)
    (plain' : '^' ∉ suffix) :
    english.Spares 5 word suffix ∧ spanish.Spares 5 word suffix ∧
      (Text.IsSmall word → english.Spares 2 word suffix) := by
  obtain ⟨five, two⟩ := Bool.and_eq_true_iff.1 losesFew_english
  refine ⟨.of_result ?_, .of_result ?_, fun small => .of_result ?_⟩
  · exact dropLast_prefix_addSuffix five plain plain' nofun
  · exact dropLast_prefix_addSuffix losesFew_spanish plain plain' nofun
  · exact dropLast_prefix_addSuffix two plain plain' fun _ => small

def afterDie : Context where
  placement := .before
  orthography := english
  last := { text := " die".toList, word := "die".toList }
  output := "to die".toList

/-- Both bounds are reached, the greater one because the template has no capitals. -/
theorem addSuffix_spares_beginning_die :
    (' ' ∉ "GEOLOGY".toList ∧ '^' ∉ "ical".toList ∧
      english.addSuffix "GEOLOGY".toList "ical".toList = "GEological".toList ∧
        Text.dropLast 5 "GEOLOGY".toList <+: "GEological".toList) ∧
    ' ' ∉ "die".toList ∧ '^' ∉ "ing".toList ∧ Text.IsSmall "die".toList ∧
      english.addSuffix "die".toList "ing".toList = "dying".toList ∧
        afterDie.suffix? "\x7b^ing\x7d".toList = some "ing".toList ∧
          ∃ a, afterDie.resolveAtom "\x7b^ing\x7d".toList = .resolved a ∧ a.replace.length ≤ 2 := by
  have geology : english.addSuffix "GEOLOGY".toList "ical".toList = "GEological".toList := by
    unfold english englishTable
    repeat rw [ofTable_cons]
    decide +kernel
  have die : english.addSuffix "die".toList "ing".toList = "dying".toList := by
    unfold english englishTable
    repeat rw [ofTable_cons]
    decide +kernel
  have attaches : afterDie.suffix? "\x7b^ing\x7d".toList = some "ing".toList := by decide +kernel
  have plain : ' ' ∉ "GEOLOGY".toList ∧ '^' ∉ "ical".toList := by decide
  have plain' : ' ' ∉ "die".toList ∧ '^' ∉ "ing".toList ∧ Text.IsSmall "die".toList := by decide
  have five := (addSuffix_spares_beginning plain.1 plain.2).1.result
  have two := (addSuffix_spares_beginning plain'.1 plain'.2.1).2.2 plain'.2.2
  obtain ⟨a, resolved, few⟩ := two.output afterDie _ rfl rfl attaches
  exact ⟨⟨plain.1, plain.2, geology, geology ▸ five⟩, plain'.1, plain'.2.1, plain'.2.2, die, attaches,
    a, resolved, few⟩

end Orthography
end Stenotype
