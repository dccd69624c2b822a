import Stenotype.Proofs.Watch

/-!
# What a suffix takes back

A suffix that goes on a word by the rules is to take back the letters that the rules change, and the
separator after them. It takes as many characters off the end of the output, so it takes these ones
exactly if the output ends with them. That is so wherever the atoms before have left the word at the
end of the output; blanks that were typed after it, or a separator that is not pending any more, are
taken back in place of letters.
-/

set_option autoImplicit false

namespace Stenotype

namespace Context

/-- The suffix that an atom adds to the last word by the suffix rules. -/
def suffix? (c : Context) (atom : Text) : Option Text :=
  match (Atom.meta? atom).bind fun s => Command.ofText? (Atom.unescape s) with
  | some (.attach s) =>
    let x := Affix.ofText s
    if !x.content.isEmpty && x.attachesBefore && c.usesOrthography x then some x.content else none
  | _ => none

/-- What the rules change at the end of the last word, and the separator that is pending after it. -/
def owed (c : Context) (suffix : Text) : Text :=
  let new := c.orthography.addSuffix c.last.word suffix
  c.last.word.drop (Text.commonLength c.last.word new) ++ c.pendingSeparator

variable {c : Context}

theorem replace_place_attached {a : Action} (s : Text) (attached : c.isAttached a = true) :
    (c.place a s).replace = a.replace ++ c.pendingSeparator := by
  cases placement : c.placement with
  | before => simp [place, placement, pendingSeparator_before placement]
  | after => simp [place, placement, attached]

theorem replace_suffix {a : Action} (kept : a.replace = []) (attaches : a.prevAttach = true)
    {x : Affix} (rules : c.usesOrthography x = true) :
    let common := Text.commonLength c.last.word (c.orthography.addSuffix c.last.word x.content)
    (c.suffix a x).replace = c.wordTail (c.last.word.length - common) ++ c.pendingSeparator := by
  intro common
  have taken (n : Nat) :
      let b := if n = 0 then a else { a with replace := c.wordTail n }
      b.replace = c.wordTail n ∧ b.prevAttach = true := by
    intro b
    by_cases none : n = 0
    · rw [show b = a from if_pos none, none, wordTail_zero]
      exact ⟨kept, attaches⟩
    · rw [show b = _ from if_neg none]
      exact ⟨rfl, attaches⟩
  have rewritten : (c.rewriteWord a x.content).1.replace =
        c.wordTail (c.last.word.length - common) ∧
      (c.rewriteWord a x.content).1.prevAttach = true := by
    cases carry : c.last.upperCarry <;> simp only [rewriteWord, carry] <;> exact taken _
  rw [suffix, rules, if_pos rfl, replace_place_attached, rewritten.1]
  rw [isAttached, rewritten.2]
  rfl

theorem wordTail_eq_iff {d : Text} :
    c.wordTail d.length ++ c.pendingSeparator = d ++ c.pendingSeparator ↔
      d ++ c.pendingSeparator <:+ c.output := by
  obtain ⟨core, output⟩ := c.pendingSeparator_suffix
  rw [wordTail_eq output.symm, List.append_cancel_right_eq, ← output,
    List.suffix_append_self_iff]
  constructor
  · intro same
    exact same ▸ Text.takeLast_suffix _ _
  · rintro ⟨front, rfl⟩
    rw [Text.takeLast_append_right _ (Nat.le_refl _), Text.takeLast, Nat.sub_self, List.drop_zero]

theorem replace_of_suffix? {atom s : Text} (h : c.suffix? atom = some s) :
    let common := Text.commonLength c.last.word (c.orthography.addSuffix c.last.word s)
    ∃ a, c.resolveAtom atom = .resolved a ∧
      a.replace = c.wordTail (c.last.word.length - common) ++ c.pendingSeparator := by
  unfold suffix? at h
  split at h
  · next text named =>
    simp only [Option.ite_none_right_eq_some, Bool.and_eq_true, Bool.not_eq_true'] at h
    obtain ⟨⟨⟨some_content, before⟩, rules⟩, content⟩ := h
    cases content
    obtain ⟨inner, inside, command⟩ := Option.bind_eq_some_iff.1 named
    let x := Affix.ofText text
    let a := x.mark c.newAction
    have attached : c.attach text = c.suffix a x := by
      rw [attach]
      change (if x.content.isEmpty then _ else if !x.attachesBefore then _ else _) = _
      rw [some_content, before]
      rfl
    refine ⟨c.suffix a x, ?_, ?_⟩
    · simp only [resolveAtom, inside, resolveMeta, command, Command.apply, attached]
    · exact replace_suffix (replace_mark x _) ((prevAttach_mark x _).trans before) rules
  · cases h

theorem resolveAtom_of_suffix? {atom s : Text} (h : c.suffix? atom = some s) :
    ∃ a, c.resolveAtom atom = .resolved a ∧
      (a.replace = c.owed s ↔ c.owed s <:+ c.output) := by
  obtain ⟨a, resolved, replace⟩ := replace_of_suffix? h
  refine ⟨a, resolved, ?_⟩
  rw [replace, owed, ← List.length_drop]
  exact wordTail_eq_iff

theorem IsFirm.owed_suffix (h : c.IsFirm) (s : Text) : c.owed s <:+ c.output := by
  obtain ⟨core, here⟩ := h
  rw [here.output, owed, List.suffix_append_self_iff]
  exact (List.drop_suffix _ _).trans here.word

end Context

namespace Formatter

/-- In every run that sets no mode, a suffix that goes by the rules takes back what they change and
the separator exactly if the output ends with these; and that is so wherever the atoms before it say
that the word ends the output. -/
theorem suffix_takes_back_owed_iff (s : FormatterSettings) (cs : List ServiceCommand)
    (modeless : ∀ c ∈ cs, ∀ t ∈ c.translations, t.setsMode = false) :
    ∀ m ∈ (Watched.new s .english).momentsOfRun cs, ∀ suffix,
      m.context.suffix? m.atom = some suffix →
        ∃ a, m.context.resolveAtom m.atom = .resolved a ∧
          (a.replace = m.context.owed suffix ↔ m.context.owed suffix <:+ m.context.output) ∧
          (m.footing.firm = true → a.replace = m.context.owed suffix) := by
  intro m hm suffix here
  obtain ⟨a, resolved, exact_iff⟩ := Context.resolveAtom_of_suffix? here
  have described := (Watched.Tracks.new s Orthography.keepsInk_english).momentsOfRun modeless m hm
  exact ⟨a, resolved, exact_iff, fun firm => exact_iff.2 ((described.firm firm).owed_suffix suffix)⟩

def drivingCommands (between : String) : List ServiceCommand :=
  [.format { new :=
    [.ofEnglish "drive", .ofEnglish between, .ofEnglish "\x7b^ing\x7d"] }]

def drivingMoments (placement : SpacePlacement) (between : String) : List Moment :=
  (Watched.new { spacePlacement := placement } .english).momentsOfRun (drivingCommands between)

/-- The letter is found behind the separator where the word was typed anew; not so if a combination
has been sent since, with separators after words, or a blank has been attached. -/
theorem drivingMoments_ing :
    (∃ m ∈ drivingMoments .after "\x7b*-|\x7d", m.footing.firm = true ∧
      m.context.suffix? m.atom = some ['i', 'n', 'g'] ∧
        m.context.owed ['i', 'n', 'g'] = ['e', ' ']) ∧
    (∃ m ∈ drivingMoments .after "\x7b#Return\x7d",
      m.context.suffix? m.atom = some ['i', 'n', 'g'] ∧
        m.context.owed ['i', 'n', 'g'] = ['e'] ∧
          ((m.context.resolveAtom m.atom).action none).replace = [' ']) ∧
    ∃ m ∈ drivingMoments .before "\x7b^ ^\x7d",
      m.context.suffix? m.atom = some ['i', 'n', 'g'] ∧
        m.context.owed ['i', 'n', 'g'] = ['e'] ∧
          ((m.context.resolveAtom m.atom).action none).replace = [' '] := by
  unfold drivingMoments Orthography.english Orthography.englishTable
  repeat rw [Orthography.ofTable_cons]
  decide +kernel

theorem suffix_takes_back_owed_iff_driving :
    (∀ c ∈ drivingCommands "\x7b*-|\x7d", ∀ t ∈ c.translations, t.setsMode = false) ∧
      ∃ m ∈ drivingMoments .after "\x7b*-|\x7d",
        m.context.suffix? m.atom = some ['i', 'n', 'g'] ∧
          ∃ a, m.context.resolveAtom m.atom = .resolved a ∧ a.replace = ['e', ' '] := by
  have modeless : ∀ c ∈ drivingCommands "\x7b*-|\x7d", ∀ t ∈ c.translations,
      t.setsMode = false := by
    decide +kernel
  obtain ⟨m, hm, firm, here, owed⟩ := drivingMoments_ing.1
  obtain ⟨a, resolved, -, taken⟩ :=
    suffix_takes_back_owed_iff { spacePlacement := .after } _ modeless m hm _ here
  exact ⟨modeless, m, hm, here, a, resolved, (taken firm).trans owed⟩

/-- After a combination, or an attached blank, a suffix takes back a blank and leaves the letter. -/
theorem blank_taken_for_letter :
    (∀ between ∈ ["\x7b#Return\x7d", "\x7b^ ^\x7d"], ∀ c ∈ drivingCommands between,
      ∀ t ∈ c.translations, t.setsMode = false) ∧
    (∃ m ∈ drivingMoments .after "\x7b#Return\x7d", ∃ suffix,
      m.context.suffix? m.atom = some suffix ∧
        ¬ ∃ a, m.context.resolveAtom m.atom = .resolved a ∧ a.replace = m.context.owed suffix) ∧
    ∃ m ∈ drivingMoments .before "\x7b^ ^\x7d", ∃ suffix,
      m.context.suffix? m.atom = some suffix ∧
        ¬ ∃ a, m.context.resolveAtom m.atom = .resolved a ∧ a.replace = m.context.owed suffix := by
  have not_owed {m : Moment} (owed : m.context.owed ['i', 'n', 'g'] = ['e'])
      (taken : ((m.context.resolveAtom m.atom).action none).replace = [' ']) :
      ¬ ∃ a, m.context.resolveAtom m.atom = .resolved a ∧
        a.replace = m.context.owed ['i', 'n', 'g'] := by
    rintro ⟨a, resolved, replace⟩
    rw [resolved, Slot.action_resolved, replace, owed] at taken
    exact absurd taken (by decide)
  obtain ⟨-, ⟨m, hm, here, owed, taken⟩, m', hm', here', owed', taken'⟩ := drivingMoments_ing
  exact ⟨by decide +kernel, ⟨m, hm, _, here, not_owed owed taken⟩, m', hm', _, here',
    not_owed owed' taken'⟩

end Formatter
end Stenotype
