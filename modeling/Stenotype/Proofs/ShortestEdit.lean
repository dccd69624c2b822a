import Stenotype.Proofs.Suffix

/-!
# The edit of a suffix

A suffix that goes on a word by the rules takes back the end of the word that the rules change,
with the separator after it, and types the rest of the new word with a separator of its own. No edit
of the word takes back less of it. An edit of the whole output can, if the word goes on with a space
where the new word ends: that space then stands for the separator.
-/

set_option autoImplicit false

namespace Stenotype

namespace Text

/-- `n` is the least number of characters that have to go from the end of `old` before `new` can
be typed. -/
def LeastCut (old new : Text) (n : Nat) : Prop :=
  (∃ typed, dropLast n old ++ typed = new) ∧ ∀ m typed, dropLast m old ++ typed = new → n ≤ m

theorem le_commonLength_of_prefix {old new : Text} {n : Nat} (le : n ≤ old.length)
    (kept : old.take n <+: new) : n ≤ commonLength old new := by
  obtain ⟨typed, rfl⟩ := kept
  have length : (old.take n).length = n := by rw [List.length_take, Nat.min_eq_left le]
  refine le_commonLength le ?_ ?_
  · rw [List.length_append, length]
    exact Nat.le_add_right _ _
  · rw [List.take_left' length]

theorem leastCut_common (old new : Text) :
    LeastCut old new (old.length - commonLength old new) := by
  have le := commonLength_le_left old new
  refine ⟨⟨new.drop (commonLength old new), ?_⟩, fun m typed whole => ?_⟩
  · rw [dropLast_length_sub le, take_commonLength, List.take_append_drop]
  · have common := le_commonLength_of_prefix (Nat.sub_le old.length m) ⟨typed, whole⟩
    omega

end Text

section Between
variable {front old sep new closing : Text}

theorem Text.kept_of_edit {n : Nat} {typed : Text}
    (whole : dropLast n (front ++ old ++ sep) ++ typed = front ++ new ++ closing) :
    dropLast (n - sep.length) old <+: new ++ closing := by
  by_cases inside : n ≤ sep.length
  · rw [dropLast_append_right _ inside, List.append_assoc front, List.append_assoc front,
      List.append_assoc front, List.append_cancel_left_eq] at whole
    rw [Nat.sub_eq_zero_of_le inside, dropLast_zero, ← whole, List.append_assoc]
    exact List.prefix_append _ _
  · obtain ⟨k, rfl⟩ : ∃ k, n = k + sep.length := ⟨n - sep.length, by omega⟩
    rw [dropLast_add_append] at whole
    rw [Nat.add_sub_cancel]
    by_cases word : k ≤ old.length
    · rw [dropLast_append_right _ word, List.append_assoc front, List.append_assoc front,
        List.append_cancel_left_eq] at whole
      exact ⟨typed, whole⟩
    · rw [dropLast, Nat.sub_eq_zero_of_le (by omega), List.take_zero]
      exact List.nil_prefix

/-- An edit of the whole takes back as much of the word as an edit of the word alone, unless the
word goes on like the separator where the new word ends. -/
theorem Text.forall_edit_iff (single : closing.length ≤ 1) :
    (∀ n typed, dropLast n (front ++ old ++ sep) ++ typed = front ++ new ++ closing →
        old.length - commonLength old new ≤ n - sep.length) ↔
      ¬ (closing ≠ [] ∧ new ++ closing <+: old) := by
  constructor
  · rintro least ⟨some_closing, rest, rfl⟩
    have shorter : dropLast (rest.length + sep.length) (front ++ (new ++ closing ++ rest) ++ sep) ++
        [] = front ++ new ++ closing := by
      rw [dropLast_add_append, dropLast_append_right _ (by rw [List.length_append]; omega),
        dropLast_append_length, List.append_nil, List.append_assoc]
    have count := least _ _ shorter
    have common := commonLength_le_right (new ++ closing ++ rest) new
    have positive := List.length_pos_iff.2 some_closing
    rw [Nat.add_sub_cancel, List.length_append, List.length_append] at count
    omega
  · intro other n typed whole
    have kept := kept_of_edit whole
    rw [dropLast] at kept
    by_cases within : (old.take (old.length - (n - sep.length))).length ≤ new.length
    · have common := le_commonLength_of_prefix (Nat.sub_le _ _)
        (List.prefix_of_prefix_length_le kept (List.prefix_append new closing) within)
      omega
    · -- the word holds the new one and the separator
      have long := kept.length_le
      rw [List.length_append] at long
      refine absurd ⟨?_, ?_⟩ other
      · rw [← List.length_pos_iff]
        omega
      · rw [← kept.eq_of_length (by rw [List.length_append]; omega)]
        exact List.take_prefix _ _

end Between

namespace Context
variable {c : Context}

theorem attach_eq_suffix {s : Text} (before : (Affix.ofText s).attachesBefore = true)
    (rules : c.usesOrthography (Affix.ofText s) = true) :
    c.attach s = c.suffix ((Affix.ofText s).mark c.newAction) (Affix.ofText s) := by
  have content : (Affix.ofText s).content.isEmpty = false := by
    cases empty : (Affix.ofText s).content with
    | nil => simp [usesOrthography, empty, Text.isAllBlank] at rules
    | cons d r => rfl
  rw [attach]
  change (if (Affix.ofText s).content.isEmpty then _ else
    if !(Affix.ofText s).attachesBefore then _ else _) = _
  rw [content, before]
  rfl

/-- A suffix by the rules puts the new word in the place of the old one and closes it where a
separator belongs. It takes back the least of the word from which the new word can be typed; and the
least with which the output can be changed so, except where the old word goes on with the closing
separator behind the new one. -/
theorem suffix_is_shortest_edit {R s : Text} (named : Command.ofText? s = some (.attach s))
    (before : (Affix.ofText s).attachesBefore = true)
    (rules : c.usesOrthography (Affix.ofText s) = true)
    (output : c.output = R ++ c.last.word ++ c.pendingSeparator)
    (carry : c.last.upperCarry = false) (case : c.last.case = none)
    (space : c.last.spaceChar = [' ']) :
    let x := Affix.ofText s
    let word := c.last.word
    let new := c.orthography.addSuffix word x.content
    let closing := if c.placement = .after ∧ x.attachesAfter = false then [' '] else []
    ∃ a removed, c.resolveMeta s = .resolved a ∧
      a.replace = Text.takeLast removed word ++ c.pendingSeparator ∧
      a.edit c.output = R ++ new ++ closing ∧
      a.word = Text.rightmostWord new ∧
      Text.LeastCut word new removed ∧
      ((∀ n typed, Text.dropLast n c.output ++ typed = R ++ new ++ closing →
          removed ≤ n - c.pendingSeparator.length) ↔
        ¬ (closing ≠ [] ∧ new ++ closing <+: word)) := by
  intro x word new closing
  let a := x.mark c.newAction
  have case' : a.case = none := by rw [case_mark]; exact case
  have space' : a.spaceChar = [' '] := by rw [spaceChar_mark]; exact space
  have kept : a.replace = [] := replace_mark x _
  obtain ⟨placed, attached, split, whole⟩ :=
    suffix_puts_word carry case' space' kept ((prevAttach_mark x _).trans before) rules output
  have made := (attach_eq_suffix before rules).trans placed
  have ends : (if c.placement = .after then a.separator else []) = closing := by
    have next : a.nextAttach = x.attachesAfter :=
      (nextAttach_mark x c.newAction).trans (Bool.or_false _)
    cases placement : c.placement <;> cases after : x.attachesAfter <;>
      simp [closing, placement, after, Action.separator, next]
  refine ⟨c.attach s, word.length - Text.commonLength word new, ?_, ?_, ?_, ?_,
    Text.leastCut_common word new, ?_⟩
  · simp only [resolveMeta, named, Command.apply]
  · rw [made, replace_place_attached _ attached,
      Text.takeLast_length_sub (Text.commonLength_le_left word new)]
  · rw [made, edit_place_attached _ _ (by exact space') attached split, whole]
    exact congrArg (R ++ new ++ ·) ends
  · rw [made, word_place]
  · rw [output]
    refine Text.forall_edit_iff ?_
    simp only [closing]
    split <;> simp

def afterDrive : Context where
  placement := .after
  orthography := .ofTable [(r"^(.+[vz])e \^ ([aeiouy].*)$", "12")]
  last := { text := "drive ".toList, word := "drive".toList }
  output := "I drive ".toList

theorem suffix_is_shortest_edit_drive :
    (afterDrive.usesOrthography (Affix.ofText "^ing".toList) = true ∧
      afterDrive.output = "I ".toList ++ afterDrive.last.word ++ afterDrive.pendingSeparator) ∧
    ∃ a, afterDrive.resolveMeta "^ing".toList = .resolved a ∧
      a.edit afterDrive.output = "I driving ".toList ∧ a.word = "driving".toList := by
  have named : Command.ofText? "^ing".toList = some (.attach "^ing".toList) := by decide +kernel
  have before : (Affix.ofText "^ing".toList).attachesBefore = true := by decide +kernel
  have rules : afterDrive.usesOrthography (Affix.ofText "^ing".toList) = true := by decide +kernel
  have output :
      afterDrive.output = "I ".toList ++ afterDrive.last.word ++ afterDrive.pendingSeparator := by
    decide +kernel
  have driving : afterDrive.orthography.addSuffix afterDrive.last.word
      (Affix.ofText "^ing".toList).content = "driving".toList := by
    decide +kernel
  obtain ⟨a, removed, resolved, -, edited, word, -⟩ :=
    suffix_is_shortest_edit named before rules output rfl rfl rfl
  rw [driving] at edited word
  exact ⟨⟨rules, output⟩, a, resolved, edited.trans (by decide +kernel),
    word.trans (by decide +kernel)⟩

def adHoc : Context where
  placement := .after
  orthography := .ofTable [(r"^ad hoc \^ s$", "ad")]
  last := { text := "ad hoc ".toList, word := "ad hoc".toList }
  output := "ad hoc ".toList

/-- The space in the word would do for the separator, but it is taken back and typed again. -/
theorem space_in_word_typed_again :
    let a := adHoc.attach ['^', 's']
    let sep := adHoc.pendingSeparator
    (Command.ofText? ['^', 's'] = some (.attach ['^', 's']) ∧
      adHoc.usesOrthography (Affix.ofText ['^', 's']) = true ∧
      adHoc.output = [] ++ adHoc.last.word ++ sep) ∧
    a.edit adHoc.output = "ad ".toList ∧
    ¬ ∀ n typed, Text.dropLast n adHoc.output ++ typed = "ad ".toList →
      a.replace.length - sep.length ≤ n - sep.length := by
  refine ⟨by decide +kernel, by decide +kernel, fun least => ?_⟩
  exact absurd (least 4 [] (by decide +kernel)) (by decide +kernel)

end Context
end Stenotype
