import Stenotype.Proofs.Ending

/-!
# Modes as repaintings

A case mode and a separator mode are set once and then do the same to every character that is typed.
Beside a run without the mode, every action has the same word and the same flags; what it types and
takes back is repainted. So one has to know only that the mode acts on texts character by character
and that the end of the output, which suffixes take back by count, is found at the same place.
-/

set_option autoImplicit false

namespace Stenotype

theorem Text.mem_of_mem_words {s w : Text} {d : Char} (h : w ∈ words s) (mem : d ∈ w) : d ∈ s := by
  fun_induction words s generalizing w with
  | case1 => simp at h
  | case2 c r blank ih => exact List.mem_cons_of_mem c (ih h mem)
  | case3 c ink => simp_all
  | case4 c ink e t blank ih =>
    rcases List.mem_cons.1 h with rfl | h
    · rw [List.mem_singleton.1 mem]
      exact List.mem_cons_self ..
    · exact List.mem_cons_of_mem c (ih h mem)
  | case5 c ink e t ink' none ih => simp_all
  | case6 c ink e t ink' v vs eq ih =>
    simp only [eq] at h ih
    rcases List.mem_cons.1 h with rfl | h
    · rcases List.mem_cons.1 mem with rfl | mem
      · exact List.mem_cons_self ..
      · exact List.mem_cons_of_mem c (ih (List.mem_cons_self ..) mem)
    · exact List.mem_cons_of_mem c (ih (List.mem_cons_of_mem v h) mem)

theorem Text.mem_of_mem_rightmostWord {s : Text} {d : Char} (h : d ∈ rightmostWord s) : d ∈ s := by
  rw [rightmostWord, List.getLastD_eq_getLast?] at h
  cases last : (words s).getLast? with
  | none => simp [last] at h
  | some w =>
    rw [last] at h
    exact mem_of_mem_words (List.mem_of_getLast? last) h

def Typing.mayRetype : Typing → Bool
  | affix s => (Affix.ofText s).attachesBefore
  | _ => false

/-- What a mode makes of every character, and how it does it. -/
structure Repaint where
  paint : Char → Text
  case : Option LetterCase
  spaceChar : Text
  fits : Char → Prop
  space : paint ' ' = spaceChar
  modes : ∀ s : Text, (∀ c ∈ s, fits c) → ∀ attached,
    Text.substitute ' ' spaceChar (LetterCase.apply case attached s) = s.flatMap paint
  fits_upperChar : ∀ c, fits c → ∀ d ∈ Text.upperChar c, fits d

namespace Repaint
variable (R : Repaint)

def text (s : Text) : Text := s.flatMap R.paint

theorem text_append (s t : Text) : R.text (s ++ t) = R.text s ++ R.text t := List.flatMap_append

def action (a : Action) : Action :=
  { a with case := R.case, spaceChar := R.spaceChar, text := R.text a.text, replace := R.text a.replace }

def Opens (s : Text) : Prop :=
  ∀ c ∈ s.head?, ∀ r, Text.capitalizeFirst (R.paint c ++ r) = R.text (Text.upperChar c) ++ r

/-- Nothing is pending but a capital, and the word is one that the mode treats as its own. -/
structure Ready (a : Action) : Prop extends a.IsOrdinary where
  lower : a.lower = false
  word : ∀ c ∈ a.word, R.fits c

def Admits : Typing → Prop
  | .plain s => (∀ c ∈ s, R.fits c) ∧ R.Opens s
  | .glued s => (∀ c ∈ s, R.fits c) ∧ R.Opens s
  | .stop mark => R.text mark = mark
  | .comma mark => R.text mark = mark
  | .affix s => (∀ c ∈ (Affix.ofText s).content, R.fits c) ∧ R.Opens (Affix.ofText s).content

/-- A suffix rule makes nothing that the mode does not treat as its own. -/
def Closed (o : Orthography) : Prop :=
  ∀ word suffix, (∀ c ∈ word, R.fits c) → (∀ c ∈ suffix, R.fits c) →
    ∀ c ∈ o.addSuffix word suffix, R.fits c

/-- `d` is `c` in the mode: the separator that is pending is repainted. -/
structure Paints (c d : Context) : Prop where
  style : d.toStyle = c.toStyle
  last : d.last = R.action c.last
  pendingSeparator : d.pendingSeparator = R.text c.pendingSeparator

/-- The end of the output, as far as it stands for the last word, is repainted. -/
def PaintsTail (c d : Context) : Prop :=
  ∀ n ≤ c.last.word.length, d.wordTail n = R.text (c.wordTail n)

variable {R}

theorem capitalizeFirst_text {s : Text} (opens : R.Opens s) :
    Text.capitalizeFirst (R.text s) = R.text (Text.capitalizeFirst s) := by
  cases s with
  | nil => rfl
  | cons c r =>
    rw [Text.capitalizeFirst, R.text_append]
    exact opens c rfl (R.text r)

theorem fits_capitalizeFirst {s : Text} (fits : ∀ c ∈ s, R.fits c) :
    ∀ c ∈ Text.capitalizeFirst s, R.fits c := by
  cases s with
  | nil => simp [Text.capitalizeFirst]
  | cons c r =>
    intro d mem
    rcases List.mem_append.1 mem with first | rest
    · exact R.fits_upperChar c (fits c (List.mem_cons_self ..)) d first
    · exact fits d (List.mem_cons_of_mem c rest)

theorem applyModes_action (a : Action) {s : Text} (fits : ∀ c ∈ s, R.fits c) (attached : Bool) :
    Context.applyModes (R.action a) attached s = R.text s :=
  R.modes s fits attached

namespace Paints
variable {c d : Context}

theorem newAction (h : R.Paints c d) : d.newAction = R.action c.newAction := by
  rw [Context.newAction, h.last]
  rfl

theorem isAttached (h : R.Paints c d) (a : Action) : d.isAttached (R.action a) = c.isAttached a := by
  rw [Context.isAttached, h.last]
  rfl

theorem place (h : R.Paints c d) {a : Action} (space : a.spaceChar = [' ']) (s : Text) :
    d.place (R.action a) (R.text s) = R.action (c.place a s) := by
  have separator : R.text a.spaceChar = R.spaceChar := by
    rw [space, text, List.flatMap_singleton, R.space]
  have placement : d.placement = c.placement := by rw [h.style]
  rw [Context.place, Context.place, placement, h.isAttached, h.pendingSeparator]
  cases c.placement with
  | before =>
    cases c.isAttached a <;> simp [action, text_append, separator]
  | after =>
    cases c.isAttached a <;> cases next : a.nextAttach <;>
      simp [action, text_append, separator, next]

end Paints

section Ready
variable {c : Context}

theorem applyOneShot_of_ready (ready : R.Ready c.last) (s : Text) (attached : Bool) :
    c.applyOneShot s attached = if c.last.capitalize then Text.capitalizeFirst s else s := by
  simp only [Context.applyOneShot, ready.lower, Context.wantsUpper_of_ordinary ready.toIsOrdinary,
    Bool.false_eq_true, ↓reduceIte]

theorem fits_applyOneShot (ready : R.Ready c.last) {s : Text} (fits : ∀ d ∈ s, R.fits d)
    (attached : Bool) : ∀ d ∈ c.applyOneShot s attached, R.fits d := by
  rw [applyOneShot_of_ready ready]
  split
  · exact fits_capitalizeFirst fits
  · exact fits

theorem fits_rightmostWord {s : Text} (fits : ∀ d ∈ s, R.fits d) :
    ∀ d ∈ Text.rightmostWord s, R.fits d := fun d mem => fits d (Text.mem_of_mem_rightmostWord mem)

theorem fits_append {s t : Text} (fits : ∀ d ∈ s, R.fits d) (fits' : ∀ d ∈ t, R.fits d) :
    ∀ d ∈ s ++ t, R.fits d := fun d mem => (List.mem_append.1 mem).elim (fits d) (fits' d)

theorem ready_place {a : Action} (ready : R.Ready a) (s : Text) : R.Ready (c.place a s) := by
  unfold Context.place
  split <;>
    exact ⟨⟨ready.upper, ready.upperCarry, ready.case, ready.spaceChar⟩, ready.lower, ready.word⟩

end Ready

namespace Paints
variable {c d : Context}

theorem wantsUpper (h : R.Paints c d) (attached : Bool) :
    d.wantsUpper attached = c.wantsUpper attached := by
  rw [Context.wantsUpper, h.last]
  rfl

theorem applyOneShot (h : R.Paints c d) (s : Text) (attached : Bool) :
    d.applyOneShot s attached = c.applyOneShot s attached := by
  rw [Context.applyOneShot, h.wantsUpper, h.last]
  rfl

theorem renderWord (h : R.Paints c d) (ready : R.Ready c.last) {a : Action} (ordinary : a.IsOrdinary)
    {s : Text} (fits : ∀ e ∈ s, R.fits e) (opens : R.Opens s) :
    d.renderWord (R.action a) s = R.action (c.renderWord a s) := by
  let attached := c.isAttached a
  let typed := c.applyOneShot s attached
  let b : Action :=
    { a with
      word :=
        if a.glue && attached then c.last.word ++ Text.rightmostWord typed
        else Text.rightmostWord typed
      upperCarry := c.wantsUpper attached }
  have made : c.renderWord a s = c.place b typed := Context.renderWord_eq ordinary s
  have capital : d.applyOneShot (R.text s) attached = R.text typed := by
    rw [h.applyOneShot, applyOneShot_of_ready ready, show typed = _ from applyOneShot_of_ready ready s _]
    split
    · exact capitalizeFirst_text opens
    · rfl
  have painted : d.renderWord (R.action a) s = d.place (R.action b) (R.text typed) := by
    rw [Context.renderWord, h.isAttached, applyModes_action a fits, capital, h.applyOneShot,
      h.wantsUpper, h.last]
    rfl
  rw [made, painted, h.place (a := b) ordinary.spaceChar]

theorem ready_renderWord (ready : R.Ready c.last) {a : Action} (ordinary : a.IsOrdinary)
    (lower : a.lower = false) {s : Text} (fits : ∀ e ∈ s, R.fits e) : R.Ready (c.renderWord a s) := by
  have typed := fits_applyOneShot ready fits (c.isAttached a)
  have quiet := Context.wantsUpper_of_ordinary ready.toIsOrdinary (c.isAttached a)
  have word : ∀ e ∈ (if a.glue && c.isAttached a then
        c.last.word ++ Text.rightmostWord (c.applyOneShot s (c.isAttached a))
      else Text.rightmostWord (c.applyOneShot s (c.isAttached a))), R.fits e := by
    split
    · exact fits_append ready.word (fits_rightmostWord typed)
    · exact fits_rightmostWord typed
  rw [Context.renderWord_eq ordinary]
  refine ready_place ?_ _
  exact ⟨⟨ordinary.upper, quiet, ordinary.case, ordinary.spaceChar⟩, lower, word⟩

theorem orthographyBreak (h : R.Paints c d) {a : Action} (ordinary : a.IsOrdinary) :
    d.orthographyBreak (R.action a) = R.action (c.orthographyBreak a) := by
  let b : Action :=
    { a with
      orthography := false, word := c.last.word, capitalize := c.last.capitalize
      lower := c.last.lower, upper := c.last.upper, upperCarry := c.last.upperCarry }
  have painted : d.orthographyBreak (R.action a) = d.place (R.action b) (R.text []) := by
    rw [Context.orthographyBreak, h.last]
    rfl
  rw [painted, h.place (a := b) ordinary.spaceChar]
  rfl

theorem suffix (h : R.Paints c d) (tail : R.PaintsTail c d) (ready : R.Ready c.last)
    (closed : R.Closed c.orthography) {a : Action} (ordinary : a.IsOrdinary)
    (kept : a.replace = []) {x : Affix} (fits : ∀ e ∈ x.content, R.fits e) :
    d.suffix (R.action a) x = R.action (c.suffix a x) := by
  have kept' : (R.action a).replace = [] := by
    change R.text a.replace = []
    rw [kept]
    rfl
  have rules' : d.usesOrthography x = c.usesOrthography x := by
    rw [Context.usesOrthography, h.last]
    rfl
  have orthography : d.orthography = c.orthography := by rw [h.style]
  have carry : d.last.upperCarry = false := by
    rw [h.last]
    exact ready.upperCarry
  cases rules : c.usesOrthography x with
  | true =>
    let new := c.orthography.addSuffix c.last.word x.content
    let common := Text.commonLength c.last.word new
    let replaced := c.last.word.length - common
    let b : Action := { a with replace := c.wordTail replaced, word := Text.rightmostWord new }
    have made : c.suffix a x = c.place b (new.drop common) :=
      Context.suffix_eq_of_rules ready.upperCarry ordinary.case ordinary.spaceChar kept rules
    have typed : ∀ e ∈ new.drop common, R.fits e := fun e mem =>
      closed _ _ ready.word fits e (List.mem_of_mem_drop mem)
    have painted : d.suffix (R.action a) x = d.place (R.action b) (R.text (new.drop common)) := by
      rw [Context.suffix, rules', rules, if_pos rfl, Context.rewriteWord_eq carry kept', orthography,
        h.last]
      change d.place { R.action a with
          replace := d.wordTail replaced, word := Text.rightmostWord new }
        (Context.applyModes (R.action b) true (new.drop common)) = _
      rw [applyModes_action b typed, tail _ (Nat.sub_le _ _)]
      rfl
    rw [made, painted, h.place (a := b) ordinary.spaceChar]
  | false =>
    let typed := c.applyOneShot x.content true
    let b : Action :=
      { a with upperCarry := c.wantsUpper true, word := Text.rightmostWord (c.last.word ++ typed) }
    have made : c.suffix a x = c.place b typed := Context.suffix_eq_of_no_rules ordinary rules
    have painted : d.suffix (R.action a) x = d.place (R.action b) (R.text typed) := by
      rw [Context.suffix, rules', rules, if_neg Bool.false_ne_true, Context.extendWord,
        h.applyOneShot, h.wantsUpper, h.last]
      change d.place _ (Context.applyModes (R.action a) true typed) = _
      rw [applyModes_action a (fits_applyOneShot ready fits true)]
      rfl
    rw [made, painted, h.place (a := b) ordinary.spaceChar]

theorem ready_suffix (ready : R.Ready c.last) (closed : R.Closed c.orthography) {a : Action}
    (ordinary : a.IsOrdinary) (lower : a.lower = false) (kept : a.replace = []) {x : Affix}
    (fits : ∀ e ∈ x.content, R.fits e) : R.Ready (c.suffix a x) := by
  cases rules : c.usesOrthography x with
  | true =>
    rw [Context.suffix_eq_of_rules ready.upperCarry ordinary.case ordinary.spaceChar kept rules]
    refine ready_place ?_ _
    exact ⟨⟨ordinary.upper, ordinary.upperCarry, ordinary.case, ordinary.spaceChar⟩, lower,
      fits_rightmostWord (closed _ _ ready.word fits)⟩
  | false =>
    have typed := fits_applyOneShot ready fits true
    have quiet := Context.wantsUpper_of_ordinary ready.toIsOrdinary true
    rw [Context.suffix_eq_of_no_rules ordinary rules]
    refine ready_place ?_ _
    exact ⟨⟨ordinary.upper, quiet, ordinary.case, ordinary.spaceChar⟩, lower,
      fits_rightmostWord (fits_append ready.word typed)⟩

theorem attach (h : R.Paints c d) {s : Text}
    (tail : (Affix.ofText s).attachesBefore = true → R.PaintsTail c d) (ready : R.Ready c.last)
    (closed : R.Closed c.orthography) (admits : R.Admits (.affix s)) :
    d.attach s = R.action (c.attach s) ∧ R.Ready (c.attach s) := by
  let x := Affix.ofText s
  let a := x.mark c.newAction
  have ordinary : a.IsOrdinary :=
    Context.ordinary_mark x ⟨rfl, rfl, ready.case, ready.spaceChar⟩
  have lower : a.lower = false := by
    simp only [a, Affix.mark]
    split <;> rfl
  have kept : a.replace = [] := Context.replace_mark x _
  have marked : x.mark d.newAction = R.action a := by
    rw [h.newAction]
    simp only [a, Affix.mark]
    split <;> rfl
  obtain ⟨fits, opens⟩ := admits
  unfold Context.attach
  change (if x.content.isEmpty then d.orthographyBreak (x.mark d.newAction)
      else if !x.attachesBefore then d.renderWord (x.mark d.newAction) x.content
      else d.suffix (x.mark d.newAction) x) =
    R.action (if x.content.isEmpty then c.orthographyBreak a
      else if !x.attachesBefore then c.renderWord a x.content else c.suffix a x) ∧
    R.Ready (if x.content.isEmpty then c.orthographyBreak a
      else if !x.attachesBefore then c.renderWord a x.content else c.suffix a x)
  rw [marked]
  split
  · refine ⟨h.orthographyBreak ordinary, ?_⟩
    exact ready_place (a := { a with
      orthography := false, word := c.last.word, capitalize := c.last.capitalize
      lower := c.last.lower, upper := c.last.upper, upperCarry := c.last.upperCarry })
      ⟨⟨ready.upper, ready.upperCarry, ordinary.case, ordinary.spaceChar⟩, ready.lower, ready.word⟩ []
  · split
    · exact ⟨h.renderWord ready ordinary fits opens, ready_renderWord ready ordinary lower fits⟩
    · next joins =>
      exact ⟨h.suffix (tail (by simpa using joins)) ready closed ordinary kept fits,
        ready_suffix ready closed ordinary lower kept fits⟩

/-- What is typed in the mode is what is typed without it, repainted. -/
theorem typing (h : R.Paints c d) {k : Typing} (tail : k.mayRetype = true → R.PaintsTail c d)
    (ready : R.Ready c.last) (closed : R.Closed c.orthography) (admits : R.Admits k) :
    k.action d = R.action (k.action c) ∧ R.Ready (k.action c) := by
  have ordinary : c.newAction.IsOrdinary := ⟨rfl, rfl, ready.case, ready.spaceChar⟩
  have nothing : ∀ e ∈ ([] : Text), R.fits e := by simp
  cases k with
  | plain s =>
    have made : d.renderWord d.newAction s = R.action (c.renderWord c.newAction s) := by
      rw [h.newAction]
      exact h.renderWord ready ordinary admits.1 admits.2
    exact ⟨made, ready_renderWord ready ordinary rfl admits.1⟩
  | glued s =>
    let a : Action := { c.newAction with glue := true, prevAttach := c.last.glue }
    have joined : a.IsOrdinary := ⟨rfl, rfl, ready.case, ready.spaceChar⟩
    have made : d.glue s = R.action (c.renderWord a s) := by
      rw [← h.renderWord ready joined admits.1 admits.2, Context.glue, h.newAction, h.last]
      rfl
    exact ⟨made, ready_renderWord ready joined rfl admits.1⟩
  | stop mark =>
    let a : Action := { c.newAction with prevAttach := true, capitalize := true }
    have made : d.stop mark = R.action (c.place a mark) := by
      rw [← h.place (a := a) ready.spaceChar, Context.stop, h.newAction,
        show R.text mark = mark from admits]
      rfl
    exact ⟨made, ready_place (a := a)
      ⟨⟨rfl, rfl, ready.case, ready.spaceChar⟩, rfl, nothing⟩ mark⟩
  | comma mark =>
    let a : Action := { c.newAction with prevAttach := true }
    have made : d.comma mark = R.action (c.place a mark) := by
      rw [← h.place (a := a) ready.spaceChar, Context.comma, h.newAction,
        show R.text mark = mark from admits]
      rfl
    exact ⟨made, ready_place (a := a)
      ⟨⟨rfl, rfl, ready.case, ready.spaceChar⟩, rfl, nothing⟩ mark⟩
  | affix s => exact h.attach tail ready closed admits

end Paints
end Repaint

end Stenotype
