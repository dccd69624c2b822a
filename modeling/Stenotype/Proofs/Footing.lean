import Stenotype.Proofs.Ending

/-!
# Footings

Whether the output ends with the last word can be read off the atoms that led to it. A footing says
what is known after them. It is found without the output or the action before, one atom at a time,
and what it says is true of every context that the atoms lead to.
-/

set_option autoImplicit false

namespace Stenotype

/-- What is known of the output from the atoms that led to it. -/
structure Footing where
  firm : Bool
  /-- Upper case may be pending, or carried into what is attached. -/
  loud : Bool
  deriving DecidableEq, Repr

namespace Footing

def start : Footing := ⟨true, false⟩

def unsure : Footing := ⟨false, true⟩

def meet (σ τ : Footing) : Footing := ⟨σ.firm && τ.firm, σ.loud || τ.loud⟩

/-- After an action that types nothing. A separator that was pending stays on the output, but is not
pending any more. -/
def silent (placement : SpacePlacement) (σ : Footing) : Footing :=
  { σ with firm := σ.firm && placement = .before }

def word (σ : Footing) (s : Text) : Footing := { σ with firm := Text.endsInInk s }

def mark (s : Text) : Footing := ⟨Text.endsInInk s, false⟩

def glued (σ : Footing) (s : Text) : Footing :=
  { σ with firm := σ.firm && !s.isEmpty && s.all fun c => !Text.isBlank c }

def attached (σ : Footing) (x : Affix) : Footing :=
  if x.content.isEmpty then { σ with firm := σ.firm && x.attachesBefore && x.attachesAfter }
  else if !x.attachesBefore then σ.word x.content
  else { σ with firm := σ.firm && !σ.loud && Text.endsInInk x.content }

def carried (placement : SpacePlacement) (σ : Footing) (x : Affix) : Footing :=
  if x.content.isEmpty && !x.attachesBefore && !x.attachesAfter then
    { σ.silent placement with loud := false }
  else ⟨σ.firm && Text.endsInInk x.content, false⟩

def alternative (placement : SpacePlacement) (σ : Footing) (s : Text) : Footing :=
  if s.isEmpty then σ.silent placement else σ.word s

/-- After either alternative, or after all of `s` as text if the arguments make no sense. -/
def conditional (placement : SpacePlacement) (σ : Footing) (args s : Text) : Footing :=
  match splitArguments args with
  | [_, matched, unmatched] =>
    ((σ.alternative placement matched).meet (σ.alternative placement unmatched)).meet (σ.word s)
  | _ => σ.word s

/-- After a command that is written as `s`. A mode is taken to be unknown, and typed as text. -/
def command (placement : SpacePlacement) (σ : Footing) (s : Text) : Command → Footing
  | .stop text => .mark text
  | .comma text => .mark text
  | .capitalizeNext => σ.silent placement
  | .lowerNext => σ.silent placement
  | .upperNext => { σ.silent placement with loud := true }
  | .retroCase case => { σ with loud := σ.loud || case == .upper }
  | .retroCurrency form =>
    { σ.silent placement with firm := (σ.silent placement).firm && Text.endsInInk form }
  | .retroDeleteSpace => σ.silent placement
  | .retroInsertSpace => { σ with firm := false }
  | .mode _ => σ.word s
  | .engineCommand _ => σ.silent placement
  | .keyCombo _ => σ.silent placement
  | .ifNextMatches args => σ.conditional placement args s
  | .glue text => σ.glued text
  | .carryCapitalize text => σ.carried placement (.ofCarryText text)
  | .attach text => σ.attached (.ofText text)

def atom (placement : SpacePlacement) (σ : Footing) (atom : Text) : Footing :=
  match Atom.meta? atom with
  | none => σ.word (Atom.unescape atom)
  | some s =>
    let s := Atom.unescape s
    match Command.ofText? s with
    | none => σ.word s
    | some command => σ.command placement s command

def outline (σ : Footing) (outline : Text) : Footing :=
  if isNumberOutline outline then σ.glued (Text.substitute '-' [] outline) else σ.word outline

def translation (placement : SpacePlacement) (σ : Footing) (t : Translation) : Footing :=
  match t.english with
  | none => σ.outline t.outline
  | some english =>
    match Atom.trimmed english with
    | [] => σ.silent placement
    | atoms => atoms.foldl (atom placement) σ

structure Describes (σ : Footing) (c : Context) : Prop where
  case : c.last.case = none
  spaceChar : c.last.spaceChar = [' ']
  firm : σ.firm = true → c.IsFirm
  quiet : σ.loud = false → c.last.upper = false ∧ c.last.upperCarry = false

namespace Describes
variable {σ τ : Footing} {c : Context}

theorem meet_left (h : σ.Describes c) : (σ.meet τ).Describes c where
  case := h.case
  spaceChar := h.spaceChar
  firm both := h.firm (Bool.and_eq_true_iff.1 both).1
  quiet neither := h.quiet (Bool.or_eq_false_iff.1 neither).1

theorem meet_right (h : τ.Describes c) : (σ.meet τ).Describes c where
  case := h.case
  spaceChar := h.spaceChar
  firm both := h.firm (Bool.and_eq_true_iff.1 both).2
  quiet neither := h.quiet (Bool.or_eq_false_iff.1 neither).2

theorem ordinary (h : σ.Describes c) (quiet : σ.loud = false) : c.last.IsOrdinary :=
  ⟨(h.quiet quiet).1, (h.quiet quiet).2, h.case, h.spaceChar⟩

theorem ordinary_newAction (h : σ.Describes c) : c.newAction.IsOrdinary :=
  ⟨rfl, rfl, h.case, h.spaceChar⟩

theorem isFirm_silent (h : σ.Describes c) (firm : (σ.silent c.placement).firm = true) {a : Action}
    (text : a.text = []) (replace : a.replace = []) (word : a.word = c.last.word)
    (space : a.spaceChar = [' ']) : (c.step a).IsFirm := by
  simp only [silent, Bool.and_eq_true, decide_eq_true_eq] at firm
  exact (h.firm firm.1).silent (Context.pendingSeparator_before firm.2) text replace word space

theorem silently (h : σ.Describes c) {a : Action} (case : a.case = c.last.case)
    (space : a.spaceChar = c.last.spaceChar) (word : a.word = c.last.word) (text : a.text = [])
    (replace : a.replace = [])
    (quiet : c.last.upper = false ∧ c.last.upperCarry = false →
      a.upper = false ∧ a.upperCarry = false) :
    (σ.silent c.placement).Describes (c.step a) where
  case := case.trans h.case
  spaceChar := space.trans h.spaceChar
  firm firm := h.isFirm_silent firm text replace word (space.trans h.spaceChar)
  quiet none := quiet (h.quiet none)

theorem copyLast (h : σ.Describes c) : (σ.silent c.placement).Describes (c.step c.copyLast) :=
  h.silently rfl rfl rfl rfl rfl id

theorem capitalizeNext (h : σ.Describes c) :
    (σ.silent c.placement).Describes (c.step c.capitalizeNext) :=
  h.silently rfl rfl rfl rfl rfl fun quiet => ⟨rfl, quiet.2⟩

theorem lowerNext (h : σ.Describes c) :
    (σ.silent c.placement).Describes (c.step c.lowerNext) :=
  h.silently rfl rfl rfl rfl rfl fun quiet => ⟨rfl, quiet.2⟩

theorem upperNext (h : σ.Describes c) :
    Footing.Describes { σ.silent c.placement with loud := true } (c.step c.upperNext) where
  case := h.case
  spaceChar := h.spaceChar
  firm firm := h.isFirm_silent firm rfl rfl rfl h.spaceChar
  quiet quiet := absurd quiet.symm Bool.false_ne_true

theorem keyCombo (h : σ.Describes c) (combo : Text) :
    (σ.silent c.placement).Describes (c.step (c.keyCombo combo)) :=
  h.silently rfl rfl rfl rfl rfl id

theorem engineCommand (h : σ.Describes c) (name : Text) :
    (σ.silent c.placement).Describes (c.step (c.engineCommand name)) :=
  h.silently rfl rfl rfl rfl rfl id

theorem place {a : Action} {s : Text} (case : a.case = none) (space : a.spaceChar = [' '])
    (quiet : σ.loud = false → a.upper = false ∧ a.upperCarry = false)
    (firm : σ.firm = true → (c.step (c.place a s)).IsFirm) : σ.Describes (c.step (c.place a s)) where
  case := (Context.case_place a s).trans case
  spaceChar := (Context.spaceChar_place a s).trans space
  firm := firm
  quiet none := by
    rw [Context.step, Context.upper_place, Context.upperCarry_place]
    exact quiet none

theorem renderWord (h : σ.Describes c) {a : Action} (ordinary : a.IsOrdinary) (kept : a.replace = [])
    (apart : a.glue = false) (s : Text) : (σ.word s).Describes (c.step (c.renderWord a s)) := by
  rw [Context.renderWord_eq ordinary, apart]
  refine place ordinary.case ordinary.spaceChar (fun quiet => ?_) fun ink => ?_
  · exact ⟨ordinary.upper, Context.wantsUpper_of_ordinary (h.ordinary quiet) _⟩
  · have typed := Context.endsInInk_applyOneShot (c := c) (c.isAttached a) ink
    exact Context.isFirm_place_own ordinary.spaceChar kept (Text.rightmostWord_suffix typed) typed

theorem typeText (h : σ.Describes c) (s : Text) :
    (σ.word s).Describes (c.step (c.renderWord c.newAction s)) :=
  h.renderWord h.ordinary_newAction rfl rfl s

theorem alternative (h : σ.Describes c) (s : Text) :
    (σ.alternative c.placement s).Describes (c.step (c.alternative s)) := by
  unfold Footing.alternative Context.alternative
  split
  · exact h.copyLast
  · exact h.typeText s

theorem mark (h : σ.Describes c) (capitalize : Bool) (s : Text) :
    (Footing.mark s).Describes (c.step
      (c.place { c.newAction with prevAttach := true, capitalize := capitalize } s)) :=
  place h.case h.spaceChar (fun _ => ⟨rfl, rfl⟩) fun ink =>
    Context.isFirm_place_own h.spaceChar rfl List.nil_suffix ink

theorem glue (h : σ.Describes c) (s : Text) : (σ.glued s).Describes (c.step (c.glue s)) := by
  let a : Action := { c.newAction with glue := true, prevAttach := c.last.glue }
  let typed := c.applyOneShot s (c.isAttached a)
  have made : c.glue s = c.place
      { a with
        word :=
          if c.isAttached a then c.last.word ++ Text.rightmostWord typed
          else Text.rightmostWord typed
        upperCarry := c.wantsUpper (c.isAttached a) } typed :=
    Context.renderWord_eq (c := c) (a := a) ⟨rfl, rfl, h.case, h.spaceChar⟩ s
  rw [made]
  refine place h.case h.spaceChar (fun quiet => ?_) fun firm => ?_
  · exact ⟨rfl, Context.wantsUpper_of_ordinary (h.ordinary quiet) _⟩
  · simp only [glued, Bool.and_eq_true, Bool.not_eq_true', List.isEmpty_eq_false_iff,
      List.all_eq_true] at firm
    obtain ⟨⟨firm, ne⟩, ink⟩ := firm
    have ends : Text.endsInInk typed = true :=
      Context.endsInInk_applyOneShot _ (Text.endsInInk_of_ink ne ink)
    -- without blanks all that is typed is the word, so the old word may go before it
    have whole : Text.rightmostWord typed = typed :=
      Text.rightmostWord_of_no_blank (Context.ink_applyOneShot _ ink)
    rw [whole]
    cases attached : c.isAttached a with
    | true => exact (h.firm firm).place_joined h.spaceChar attached rfl List.suffix_rfl ends
    | false => exact Context.isFirm_place_own h.spaceChar rfl List.suffix_rfl ends

theorem lastWord (h : σ.Describes c) (firm : σ.firm = true) {w tail : Text}
    (last : c.lastWordWithTail? = some (w, tail)) :
    tail = c.pendingSeparator ∧ Text.endsInInk w = true ∧
      ∃ front, c.output = front ++ w ++ c.pendingSeparator := by
  obtain ⟨core, here⟩ := h.firm firm
  rcases here.lastWordWithTail? h.spaceChar with ⟨-, none⟩ | ⟨front, w', rfl, found, ink⟩
  · rw [none] at last
    cases last
  · rw [found] at last
    cases last
    exact ⟨rfl, ink, front, here.output⟩

theorem retroCase (h : σ.Describes c) (case : LetterCase) :
    Footing.Describes { σ with loud := σ.loud || case == .upper } (c.step (c.retroCase case)) := by
  cases last : c.lastWordWithTail? with
  | none =>
    have made : c.retroCase case = { c.copyLast with prevAttach := true } := by
      rw [Context.retroCase, last]
    rw [made]
    refine ⟨h.case, h.spaceChar, fun firm => ?_, fun quiet => ?_⟩
    · -- an output that ends with its word and has no word is empty
      obtain ⟨core, here⟩ := h.firm firm
      rcases here.lastWordWithTail? h.spaceChar with ⟨nothing, -⟩ | ⟨_, _, _, found, _⟩
      · have pending : c.pendingSeparator = [] := by
          have suffix := c.pendingSeparator_suffix
          rw [nothing] at suffix
          exact List.suffix_nil.1 suffix
        exact (h.firm firm).silent pending rfl rfl rfl h.spaceChar
      · rw [found] at last
        cases last
    · exact h.quiet (Bool.or_eq_false_iff.1 quiet).1
  | some found =>
    obtain ⟨w, tail⟩ := found
    have made : c.retroCase case =
        { c.copyLast with
          prevAttach := true
          replace := w ++ tail, text := LetterCase.apply (some case) false w ++ tail
          word := LetterCase.apply (some case) false w
          upperCarry := c.last.upperCarry || case == .upper } := by
      rw [Context.retroCase, last]
      rfl
    rw [made]
    refine ⟨h.case, h.spaceChar, fun firm => ?_, fun quiet => ?_⟩
    · obtain ⟨rfl, ink, front, output⟩ := h.lastWord firm last
      exact Context.isFirm_retype h.spaceChar output h.spaceChar rfl rfl rfl
        (List.suffix_append _ _) (LetterCase.endsInInk_apply _ _ ink)
    · obtain ⟨quiet, other⟩ := Bool.or_eq_false_iff.1 quiet
      obtain ⟨upper, carry⟩ := h.quiet quiet
      exact ⟨upper, Bool.or_eq_false_iff.2 ⟨carry, other⟩⟩

theorem firm_of_silent {placement : SpacePlacement} (firm : (σ.silent placement).firm = true) :
    σ.firm = true :=
  (Bool.and_eq_true_iff.1 firm).1

theorem retroCurrency (h : σ.Describes c) (form : Text) :
    Footing.Describes
      { σ.silent c.placement with firm := (σ.silent c.placement).firm && Text.endsInInk form }
      (c.step (c.retroCurrency form)) := by
  have silent : Footing.Describes
      { σ.silent c.placement with firm := (σ.silent c.placement).firm && Text.endsInInk form }
      (c.step c.copyLast) :=
    ⟨h.case, h.spaceChar, fun both => h.copyLast.firm (Bool.and_eq_true_iff.1 both).1, h.quiet⟩
  unfold Context.retroCurrency
  split
  · exact silent
  · next w tail last =>
    split
    · exact silent
    · next amount found =>
      refine ⟨h.case, h.spaceChar, fun both => ?_, h.quiet⟩
      obtain ⟨firm, ink⟩ := Bool.and_eq_true_iff.1 both
      obtain ⟨rfl, -, front, output⟩ := h.lastWord (firm_of_silent firm) last
      exact Context.isFirm_retype h.spaceChar output h.spaceChar rfl rfl rfl List.nil_suffix
        (Text.endsInInk_substitute 'c' (Context.endsInInk_amount? found) ink)

theorem deleteSpace (h : σ.Describes c) :
    (σ.silent c.placement).Describes (c.step c.deleteSpace) := by
  unfold Context.deleteSpace
  split
  · exact h.copyLast
  · next w tail last =>
    extract_lets head before sep
    split
    · exact h.copyLast
    · next some_before =>
      refine ⟨h.case, h.spaceChar, fun firm => ?_, h.quiet⟩
      obtain ⟨rfl, ink, front, output⟩ := h.lastWord (firm_of_silent firm) last
      have head_eq : head = front := by
        rw [show head = Text.dropLast _ c.output from rfl, output, ← List.length_append,
          List.append_assoc, Text.dropLast_append_length]
      have whole : front = before ++ sep := by
        rw [← head_eq]
        exact (Text.trimEnd_append_trailingBlanks head).symm
      have before_ink : Text.endsInInk before = true := by
        refine (Text.endsInInk_trimEnd head).resolve_left fun none => ?_
        simp [before, none] at some_before
      have parts : c.output = before ++ (sep ++ w) ++ c.pendingSeparator := by
        rw [output, whole, List.append_assoc before]
      exact Context.isFirm_retype h.spaceChar parts h.spaceChar rfl rfl rfl
        (List.suffix_append_self_iff.2 (Text.rightmostWord_suffix before_ink)) ink

theorem insertSpace (h : σ.Describes c) :
    Footing.Describes { σ with firm := false } (c.step c.insertSpace) := by
  unfold Context.insertSpace
  split <;>
    exact ⟨h.case, h.spaceChar, fun firm => absurd firm Bool.false_ne_true, h.quiet⟩

theorem orthographyBreak (h : σ.Describes c) {a : Action} (ordinary : a.IsOrdinary)
    (kept : a.replace = []) :
    Footing.Describes { σ with firm := σ.firm && a.prevAttach && a.nextAttach }
      (c.step (c.orthographyBreak a)) := by
  let b : Action :=
    { a with
      orthography := false, word := c.last.word, capitalize := c.last.capitalize
      lower := c.last.lower, upper := c.last.upper, upperCarry := c.last.upperCarry }
  refine place (a := b) ordinary.case ordinary.spaceChar h.quiet fun all => ?_
  simp only [Bool.and_eq_true] at all
  obtain ⟨⟨firm, before⟩, after⟩ := all
  obtain ⟨core, here⟩ := h.firm firm
  have attached : c.isAttached b = true := by
    simp [Context.isAttached, b, before]
  have output := Context.output_place_attached (a := b) core [] ordinary.spaceChar attached
    (by rw [show b.replace = [] from kept, List.append_nil]; exact here.output)
  have pending : (c.step (c.place b [])).pendingSeparator = [] :=
    Context.pendingSeparator_of_nextAttach
      (by rw [Context.step, Context.nextAttach_place]; exact after)
  rw [List.append_nil] at output
  refine ⟨core, output, ?_, ?_⟩
  · rw [Context.step, Context.word_place]
    exact here.word
  · refine here.ink.imp_left fun nothing => ?_
    rw [here.output] at nothing
    rw [output, pending, (List.append_eq_nil_iff.1 nothing).1]
    rfl

theorem isFirm_rewrite (h : σ.Describes c) (keeps : c.orthography.keepsInk = true)
    (firm : σ.firm = true) (quiet : σ.loud = false) {a : Action} (ordinary : a.IsOrdinary)
    (kept : a.replace = []) (attaches : a.prevAttach = true) {x : Affix}
    (rules : c.usesOrthography x = true) (ink : Text.endsInInk x.content = true) :
    (c.step (c.suffix a x)).IsFirm := by
  obtain ⟨core, here⟩ := h.firm firm
  obtain ⟨front, rfl⟩ := here.word
  obtain ⟨made, attached, output, whole⟩ := Context.suffix_puts_word (h.ordinary quiet).upperCarry
    ordinary.case ordinary.spaceChar kept attaches rules here.output
  have new_ink := Orthography.endsInInk_addSuffix keeps c.last.word ink
  rw [made]
  refine Context.isFirm_place_attached _ ordinary.spaceChar attached output ?_ ?_
  · rw [whole]
    exact List.suffix_append_of_suffix (Text.rightmostWord_suffix new_ink)
  · rw [whole]
    exact Text.endsInInk_append _ new_ink

theorem suffix (h : σ.Describes c) (keeps : c.orthography.keepsInk = true) {a : Action}
    (ordinary : a.IsOrdinary) (kept : a.replace = []) (attaches : a.prevAttach = true) (x : Affix) :
    Footing.Describes { σ with firm := σ.firm && !σ.loud && Text.endsInInk x.content }
      (c.step (c.suffix a x)) := by
  have parts (firm : (σ.firm && !σ.loud && Text.endsInInk x.content) = true) :
      σ.firm = true ∧ σ.loud = false ∧ Text.endsInInk x.content = true := by
    simpa [and_assoc] using firm
  cases rules : c.usesOrthography x with
  | true =>
    refine ⟨?_, ?_, fun firm => ?_, fun quiet => ?_⟩
    · rw [Context.step, Context.suffix, rules, if_pos rfl, Context.case_place, Context.rewriteWord]
      split <;> split <;> exact ordinary.case
    · rw [Context.step, Context.suffix, rules, if_pos rfl, Context.spaceChar_place,
        Context.rewriteWord]
      split <;> split <;> exact ordinary.spaceChar
    · obtain ⟨firm, quiet, ink⟩ := parts firm
      exact h.isFirm_rewrite keeps firm quiet ordinary kept attaches rules ink
    · rw [Context.step, Context.suffix_eq_of_rules (h.ordinary quiet).upperCarry ordinary.case
        ordinary.spaceChar kept rules, Context.upper_place, Context.upperCarry_place]
      exact ⟨ordinary.upper, ordinary.upperCarry⟩
  | false =>
    rw [Context.suffix_eq_of_no_rules ordinary rules]
    refine place ordinary.case ordinary.spaceChar (fun quiet => ?_) fun firm => ?_
    · exact ⟨ordinary.upper, Context.wantsUpper_of_ordinary (h.ordinary quiet) _⟩
    · obtain ⟨firm, -, ink⟩ := parts firm
      have ends := Context.endsInInk_applyOneShot (c := c) true ink
      refine (h.firm firm).place_joined ordinary.spaceChar ?_ kept ?_ ends
      · simp [Context.isAttached, attaches]
      · exact Text.rightmostWord_suffix (Text.endsInInk_append _ ends)

theorem attach (h : σ.Describes c) (keeps : c.orthography.keepsInk = true) (s : Text) :
    (σ.attached (.ofText s)).Describes (c.step (c.attach s)) := by
  let x := Affix.ofText s
  let a := x.mark c.newAction
  have ordinary : a.IsOrdinary := Context.ordinary_mark x h.ordinary_newAction
  have kept : a.replace = [] := Context.replace_mark x _
  have before : a.prevAttach = x.attachesBefore := Context.prevAttach_mark x _
  have after : a.nextAttach = x.attachesAfter :=
    (Context.nextAttach_mark x _).trans (Bool.or_false _)
  have apart : a.glue = false := Context.glue_mark x _
  unfold Context.attach attached
  change Footing.Describes (if x.content.isEmpty then _ else if !x.attachesBefore then _ else _)
    (c.step (if x.content.isEmpty then c.orthographyBreak a
      else if !x.attachesBefore then c.renderWord a x.content else c.suffix a x))
  split
  · rw [← before, ← after]
    exact h.orthographyBreak ordinary kept
  · split
    · exact h.renderWord ordinary kept apart x.content
    · next joins =>
      exact h.suffix keeps ordinary kept (before.trans (by simpa using joins)) x

theorem carryCapitalize (h : σ.Describes c) (s : Text) :
    (σ.carried c.placement (.ofCarryText s)).Describes (c.step (c.carryCapitalize s)) := by
  let x := Affix.ofCarryText s
  let a := x.mark { c.newAction with capitalize := c.last.capitalize }
  have ordinary : a.IsOrdinary := Context.ordinary_mark x ⟨rfl, rfl, h.case, h.spaceChar⟩
  have kept : a.replace = [] := Context.replace_mark x _
  let joined := if c.isAttached a then c.last.word ++ x.content else x.content
  unfold Context.carryCapitalize carried
  change Footing.Describes
    (if x.content.isEmpty && !x.attachesBefore && !x.attachesAfter then _ else _)
    (c.step (if x.content.isEmpty && !x.attachesBefore && !x.attachesAfter then
      { a with word := c.last.word }
      else c.place { a with word := Text.rightmostWord joined } x.content))
  split
  · have text : a.text = [] := Context.text_mark x _
    exact ⟨ordinary.case, ordinary.spaceChar,
      fun firm => h.isFirm_silent firm text kept rfl ordinary.spaceChar,
      fun _ => ⟨ordinary.upper, ordinary.upperCarry⟩⟩
  · refine place ordinary.case ordinary.spaceChar
      (fun _ => ⟨ordinary.upper, ordinary.upperCarry⟩) fun both => ?_
    obtain ⟨firm, ink⟩ := Bool.and_eq_true_iff.1 both
    cases attached : c.isAttached a with
    | true =>
      have whole : joined = c.last.word ++ x.content := if_pos attached
      rw [whole]
      exact (h.firm firm).place_joined ordinary.spaceChar attached kept
        (Text.rightmostWord_suffix (Text.endsInInk_append _ ink)) ink
    | false =>
      have own : joined = x.content := if_neg (by rw [attached]; exact Bool.false_ne_true)
      rw [own]
      exact Context.isFirm_place_own ordinary.spaceChar kept (Text.rightmostWord_suffix ink) ink

theorem conditional (h : σ.Describes c) (args s : Text) {a : Action}
    (one : a = c.renderWord c.newAction s ∨ ∃ pattern matched unmatched,
      splitArguments args = [pattern, matched, unmatched] ∧
        (a = c.alternative matched ∨ a = c.alternative unmatched)) :
    (σ.conditional c.placement args s).Describes (c.step a) := by
  unfold Footing.conditional
  rcases one with rfl | ⟨pattern, matched, unmatched, parts, one⟩
  · split
    · exact (h.typeText s).meet_right
    · exact h.typeText s
  · rw [parts]
    rcases one with rfl | rfl
    · exact (h.alternative matched).meet_left.meet_left
    · exact (h.alternative unmatched).meet_right.meet_left

end Describes
end Footing

theorem LookAhead.decide_cases (l : LookAhead) (next : Option Text) :
    l.decide next = l.matched ∨ l.decide next = l.unmatched := by
  unfold decide
  split
  · split
    · exact .inl rfl
    · exact .inr rfl
  · exact .inr rfl

def Command.setsMode : Command → Bool
  | mode name => (Action.setMode? {} name).isSome
  | _ => false

def Atom.setsMode (atom : Text) : Bool :=
  ((meta? atom).bind fun s => Command.ofText? (unescape s)).any Command.setsMode

theorem Action.isSome_setMode? (a b : Action) (name : Text) :
    (a.setMode? name).isSome = (b.setMode? name).isSome := by
  unfold setMode?
  split
  · rfl
  · split <;> rfl

namespace Footing.Describes
variable {σ : Footing} {c : Context}

theorem command (h : σ.Describes c) (keeps : c.orthography.keepsInk = true) {command : Command}
    (modeless : command.setsMode = false) (s : Text) (next : Option Text) :
    (σ.command c.placement s command).Describes (c.step
      ((match command.apply c with
        | .ok slot => slot
        | .error _ => c.typeText s).action next)) := by
  cases command with
  | stop text => exact h.mark true text
  | comma text => exact h.mark false text
  | capitalizeNext => exact h.capitalizeNext
  | lowerNext => exact h.lowerNext
  | upperNext => exact h.upperNext
  | retroCase case => exact h.retroCase case
  | retroCurrency form => exact h.retroCurrency form
  | retroDeleteSpace => exact h.deleteSpace
  | retroInsertSpace => exact h.insertSpace
  | mode name =>
    have unknown : c.copyLast.setMode? name = none := by
      rw [← Option.not_isSome_iff_eq_none, Action.isSome_setMode? _ {}]
      simpa [Command.setsMode] using modeless
    rw [Command.apply, Context.mode, unknown]
    exact h.typeText s
  | engineCommand name => exact h.engineCommand name
  | keyCombo combo => exact h.keyCombo combo
  | ifNextMatches args =>
    refine h.conditional args s ?_
    rw [Command.apply]
    cases made : c.ifNextMatches args with
    | error e => exact .inl rfl
    | ok l =>
      obtain ⟨pattern, matched, unmatched, parts, first, second⟩ := Context.ifNextMatches_eq_ok made
      refine .inr ⟨pattern, matched, unmatched, parts, ?_⟩
      rw [← first, ← second]
      exact l.decide_cases next
  | glue text => exact h.glue text
  | carryCapitalize text => exact h.carryCapitalize text
  | attach text => exact h.attach keeps text

theorem atom (h : σ.Describes c) (keeps : c.orthography.keepsInk = true) {atom : Text}
    (modeless : Atom.setsMode atom = false) (next : Option Text) :
    (σ.atom c.placement atom).Describes (c.step ((c.resolveAtom atom).action next)) := by
  cases inside : Atom.meta? atom with
  | none =>
    simp only [Footing.atom, Context.resolveAtom, inside]
    exact h.typeText _
  | some s =>
    cases named : Command.ofText? (Atom.unescape s) with
    | none =>
      simp only [Footing.atom, Context.resolveAtom, Context.resolveMeta, inside, named]
      exact h.typeText _
    | some command =>
      simp only [Footing.atom, Context.resolveAtom, Context.resolveMeta, inside, named]
      exact h.command keeps (by simpa [Atom.setsMode, inside, named] using modeless) _ next

theorem outline (h : σ.Describes c) (outline : Text) (next : Option Text) :
    (σ.outline outline).Describes (c.step ((c.resolveOutline outline).action next)) := by
  unfold Footing.outline Context.resolveOutline
  split
  · exact h.glue _
  · exact h.typeText _

end Footing.Describes
end Stenotype
