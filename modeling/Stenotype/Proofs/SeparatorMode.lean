import Mathlib.Data.List.Chain
import Stenotype.Proofs.ModeRuns
import Stenotype.Proofs.Removal

/-!
# Separator modes

A separator mode puts another text, of any length, where a space would stand. A separator of one
character keeps every text as long as it was. With any other, what a suffix takes back is found at
the same place as long as the output shows the last word right before the pending separator, which
a blank translation with separators after words gives up for what is joined next.
-/

set_option autoImplicit false

namespace Stenotype

theorem Text.ink_rightmostWord (s : Text) : ∀ c ∈ rightmostWord s, isBlank c = false := by
  rw [rightmostWord, List.getLastD_eq_getLast?]
  cases last : (words s).getLast? with
  | none => simp
  | some w => exact (mem_words (List.mem_of_getLast? last)).2

namespace Context
variable {c : Context}

/-- The output without the separator that is pending ends with the last word, which has no blanks. -/
structure ShowsWord (c : Context) : Prop where
  output : ∃ core, c.output = core ++ c.pendingSeparator ∧ c.last.word <:+ core
  ink : ∀ d ∈ c.last.word, Text.isBlank d = false

theorem showsWord_place_attached {a : Action} {s : Text} (base : Text) (space : a.spaceChar = [' '])
    (attached : c.isAttached a = true) (output : c.output = base ++ a.replace ++ c.pendingSeparator)
    (word : a.word <:+ base ++ s) (ink : ∀ d ∈ a.word, Text.isBlank d = false) :
    (c.step (c.place a s)).ShowsWord where
  output := by
    refine ⟨base ++ s, output_place_attached base s space attached output, ?_⟩
    rw [step, word_place]
    exact word
  ink := by
    rw [step, word_place]
    exact ink

theorem showsWord_place_own {a : Action} {s : Text} (space : a.spaceChar = [' '])
    (kept : a.replace = []) (word : a.word <:+ s) (ink : ∀ d ∈ a.word, Text.isBlank d = false) :
    (c.step (c.place a s)).ShowsWord := by
  cases attached : c.isAttached a with
  | true =>
    obtain ⟨base, output⟩ := c.pendingSeparator_suffix
    refine showsWord_place_attached base space attached ?_ (List.suffix_append_of_suffix word) ink
    rw [kept, List.append_nil, output]
  | false =>
    obtain ⟨base, output⟩ := output_place_apart s space attached kept
    refine ⟨⟨base ++ s, output, ?_⟩, ?_⟩ <;> rw [step, word_place]
    · exact List.suffix_append_of_suffix word
    · exact ink

namespace ShowsWord

theorem place_joined (h : c.ShowsWord) {a : Action} {s : Text} (space : a.spaceChar = [' '])
    (attached : c.isAttached a = true) (kept : a.replace = []) (word : a.word = c.last.word ++ s)
    (ink : ∀ d ∈ s, Text.isBlank d = false) : (c.step (c.place a s)).ShowsWord := by
  obtain ⟨core, output, here⟩ := h.output
  refine showsWord_place_attached core space attached ?_ ?_ ?_
  · rw [kept, List.append_nil, output]
  · rw [word]
    exact List.suffix_append_self_iff.2 here
  · rw [word]
    exact fun d mem => (List.mem_append.1 mem).elim (h.ink d) (ink d)

theorem silentCopy (h : c.ShowsWord) (space : c.last.spaceChar = [' '])
    (none : c.pendingSeparator = []) : (c.step c.last.silentCopy).ShowsWord := by
  obtain ⟨core, output, here⟩ := h.output
  have same : (c.step c.last.silentCopy).output = c.output := by
    change Action.edit _ c.output = _
    rw [Action.edit]
    exact (List.append_nil _).trans (Text.dropLast_zero c.output)
  have pending : (c.step c.last.silentCopy).pendingSeparator = [] :=
    pendingSeparator_of_ink space (.inl rfl)
  exact ⟨⟨core, by rw [same, pending, output, none], here⟩, h.ink⟩

end ShowsWord

theorem ShowsWord.suffix (h : c.ShowsWord) (plain : c.last.IsOrdinary)
    (keeps : c.orthography.keepsInk = true) {a : Action} (ordinary : a.IsOrdinary)
    (kept : a.replace = []) (attaches : a.prevAttach = true) {x : Affix} (ne : x.content ≠ [])
    (ink : ∀ d ∈ x.content, Text.isBlank d = false) : (c.step (c.suffix a x)).ShowsWord := by
  cases rules : c.usesOrthography x with
  | true =>
    obtain ⟨core, output, front, rfl⟩ := h.output
    obtain ⟨made, attached, there, joined⟩ := suffix_puts_word plain.upperCarry ordinary.case
      ordinary.spaceChar kept attaches rules output
    have ends := Orthography.endsInInk_addSuffix keeps c.last.word (Text.endsInInk_of_ink ne ink)
    rw [made]
    refine showsWord_place_attached _ ordinary.spaceChar attached there ?_ (Text.ink_rightmostWord _)
    rw [joined]
    exact List.suffix_append_of_suffix (Text.rightmostWord_suffix ends)
  | false =>
    have typed := ink_applyOneShot (c := c) true ink
    have word : Text.rightmostWord (c.last.word ++ c.applyOneShot x.content true) =
        c.last.word ++ c.applyOneShot x.content true :=
      Text.rightmostWord_of_no_blank fun d mem =>
        (List.mem_append.1 mem).elim (h.ink d) (typed d)
    rw [suffix_eq_of_no_rules ordinary rules]
    refine h.place_joined ordinary.spaceChar ?_ kept word typed
    simp [isAttached, attaches]

end Context

namespace Typing

/-- What is typed neither begins nor ends with a blank; marks, glue and affixes have none at all. -/
def IsUnspaced : Typing → Prop
  | plain s => (∀ c ∈ s.head?, Text.isBlank c = false) ∧ Text.endsInInk s = true
  | k => (∀ c ∈ k.text, Text.isBlank c = false) ∧ k.IsWritten

def mayJoin : Typing → Bool
  | glued _ => true
  | affix s => (Affix.ofText s).attachesBefore
  | _ => false

theorem mayJoin_of_mayRetype {k : Typing} (h : k.mayRetype = true) : k.mayJoin = true := by
  cases k <;> first | exact h | cases h

theorem replace_suffix (c : Context) (k : Typing) : (k.action c).replace <:+ c.output := by
  cases k with
  | plain s => exact Context.replace_renderWord_suffix rfl s
  | glued s => exact Context.replace_renderWord_suffix rfl s
  | stop mark => exact Context.replace_place_suffix rfl mark
  | comma mark => exact Context.replace_place_suffix rfl mark
  | affix s => exact Context.replace_attach_suffix s

theorem attachesBefore_of_isWritten {s : Text} (written : (affix s).IsWritten)
    (empty : (Affix.ofText s).content = []) : (Affix.ofText s).attachesBefore = true := by
  by_cases first : s.head? = some '^'
  · obtain ⟨r, rfl⟩ := List.head?_eq_some_iff.1 first
    rfl
  · have other : ∀ r, s = '^' :: r → False := by
      rintro r rfl
      exact first rfl
    rw [Affix.ofText.eq_2 s other] at empty
    change (Affix.cutEnd s).2 = [] at empty
    unfold Affix.cutEnd at empty
    split at empty
    · next r cut =>
      subst empty
      exact absurd (Text.beforeEnd?_eq_some_iff.1 cut) (other [])
    · subst empty
      simp [IsWritten] at written

variable {c : Context}

theorem showsWord_affix {s : Text} (plain : c.last.IsOrdinary)
    (keeps : c.orthography.keepsInk = true) (unspaced : (affix s).IsUnspaced)
    (shown : (affix s).mayJoin = true → c.ShowsWord) : (c.step (c.attach s)).ShowsWord := by
  let x := Affix.ofText s
  let a := x.mark c.newAction
  have ordinary : a.IsOrdinary := Context.ordinary_mark x (Context.ordinary_newAction plain)
  have kept : a.replace = [] := Context.replace_mark x _
  have attaches : a.prevAttach = x.attachesBefore := Context.prevAttach_mark x _
  have glue : a.glue = false := Context.glue_mark x _
  obtain ⟨ink, written⟩ := unspaced
  have ink : ∀ d ∈ x.content, Text.isBlank d = false := fun d mem =>
    ink d (Affix.content_subset s mem)
  have made : c.attach s =
      if x.content.isEmpty then c.orthographyBreak a
      else if !x.attachesBefore then c.renderWord a x.content
      else c.suffix a x := rfl
  rw [made]
  split
  · next empty =>
    have before := attachesBefore_of_isWritten written (List.isEmpty_iff.1 empty)
    refine (shown before).place_joined ordinary.spaceChar ?_ kept (List.append_nil _).symm (by simp)
    simp [Context.isAttached, attaches, before, x]
  · next some_text =>
    have ne : x.content ≠ [] := fun empty => some_text (List.isEmpty_iff.2 empty)
    split
    · have typed := Context.ink_applyOneShot (c := c) (c.isAttached a) ink
      rw [Context.renderWord_eq ordinary]
      simp only [glue, Bool.false_and, Bool.false_eq_true, ↓reduceIte,
        Text.rightmostWord_of_no_blank typed]
      exact Context.showsWord_place_own ordinary.spaceChar kept List.suffix_rfl typed
    · next before =>
      have before : x.attachesBefore = true := by simpa using before
      exact (shown before).suffix plain keeps ordinary kept (attaches.trans before) ne ink

theorem showsWord_action (k : Typing) (plain : c.last.IsOrdinary)
    (keeps : c.orthography.keepsInk = true) (unspaced : k.IsUnspaced)
    (shown : k.mayJoin = true → c.ShowsWord) : (c.step (k.action c)).ShowsWord := by
  have nothing : ∀ d ∈ ([] : Text), Text.isBlank d = false := by simp
  cases k with
  | plain s =>
    have ends := Context.endsInInk_applyOneShot (c := c) (c.isAttached c.newAction) unspaced.2
    have ordinary := Context.ordinary_newAction plain
    change (c.step (c.renderWord c.newAction s)).ShowsWord
    rw [Context.renderWord_eq ordinary]
    exact Context.showsWord_place_own ordinary.spaceChar rfl (Text.rightmostWord_suffix ends)
      (Text.ink_rightmostWord _)
  | glued s =>
    let a : Action := { c.newAction with glue := true, prevAttach := c.last.glue }
    have ordinary : a.IsOrdinary := ⟨rfl, rfl, plain.case, plain.spaceChar⟩
    have ink : ∀ d ∈ s, Text.isBlank d = false := unspaced.1
    have typed := Context.ink_applyOneShot (c := c) (c.isAttached a) ink
    change (c.step (c.renderWord a s)).ShowsWord
    rw [Context.renderWord_eq ordinary, Text.rightmostWord_of_no_blank typed]
    cases attached : c.isAttached a with
    | true =>
      rw [attached] at typed
      exact (shown rfl).place_joined ordinary.spaceChar attached rfl rfl typed
    | false =>
      rw [attached] at typed
      exact Context.showsWord_place_own ordinary.spaceChar rfl List.suffix_rfl typed
  | stop mark => exact Context.showsWord_place_own plain.spaceChar rfl List.nil_suffix nothing
  | comma mark => exact Context.showsWord_place_own plain.spaceChar rfl List.nil_suffix nothing
  | affix s => exact showsWord_affix plain keeps unspaced shown

end Typing

def Atom.isUnspaced (atom : Text) : Bool :=
  match meta? atom with
  | none => true
  | some s =>
    ((Command.ofText? (unescape s)).bind Typing.ofCommand?).any fun k =>
      k.text.all fun c => !Text.isBlank c

namespace Translation

def isUnspaced (t : Translation) : Bool :=
  t.english.any fun english => (Atom.trimmed english).all Atom.isUnspaced

def typesNothing (t : Translation) : Bool := t.typings.isEmpty

def mayJoin (t : Translation) : Bool := t.typings.head?.any Typing.mayJoin

theorem typing_of_isUnspaced {english atom : Text} (among : atom ∈ Atom.trimmed english)
    (unspaced : Atom.isUnspaced atom = true) :
    ∃ k, Typing.ofAtom? atom = some k ∧ k.IsUnspaced := by
  unfold Atom.isUnspaced at unspaced
  unfold Typing.ofAtom?
  cases inside : Atom.meta? atom with
  | none => exact ⟨_, rfl, Atom.ink_unescape among⟩
  | some s =>
    rw [inside] at unspaced
    obtain ⟨k, made, ink⟩ := (Option.any_eq_true _ _).1 unspaced
    obtain ⟨command, named, typing⟩ := Option.bind_eq_some_iff.1 made
    have ink : ∀ c ∈ k.text, Text.isBlank c = false := by simpa using ink
    have written := (Typing.of_ofText? named typing).2
    refine ⟨k, by simp only [Typing.ofMeta?, named, typing], ?_⟩
    cases command <;> cases typing <;> exact ⟨ink, written⟩

theorem typings_of_isUnspaced {t : Translation} (unspaced : t.isUnspaced = true) :
    t.onlyTypes = true ∧ ∀ k ∈ t.typings, k.IsUnspaced := by
  obtain ⟨english, text, atoms⟩ := (Option.any_eq_true _ _).1 unspaced
  have typing (atom) (among : atom ∈ Atom.trimmed english) :=
    typing_of_isUnspaced among (List.all_eq_true.1 atoms atom among)
  unfold onlyTypes typings
  rw [text]
  refine ⟨List.all_eq_true.2 fun atom among => ?_, fun k mem => ?_⟩
  · obtain ⟨k, made, _⟩ := typing atom among
    rw [made]
    rfl
  · obtain ⟨atom, among, made⟩ := List.mem_filterMap.1 mem
    obtain ⟨k', made', ink⟩ := typing atom among
    rw [made] at made'
    cases made'
    exact ink

end Translation

namespace Repaint

theorem edit_of_suffix {R : Repaint} {a : Action} {output : Text} (taken : a.replace <:+ output) :
    (R.action a).edit (R.text output) = R.text (a.edit output) := by
  obtain ⟨base, rfl⟩ := taken
  rw [Action.edit, Action.edit, Text.dropLast_append_length, R.text_append, R.text_append]
  change Text.dropLast (R.text a.replace).length _ ++ _ = _
  rw [Text.dropLast_append_length]
  rfl

def separator (x : Text) : Repaint where
  paint c := if c = ' ' then x else [c]
  case := none
  spaceChar := x
  fits _ := True
  space := if_pos rfl
  modes _ _ _ := rfl
  fits_upperChar _ _ _ _ := trivial

namespace separator
variable {x : Text}

theorem text_of_ink {s : Text} (ink : ∀ c ∈ s, Text.isBlank c = false) :
    (separator x).text s = s := by
  have same (c : Char) (mem : c ∈ s) : (separator x).paint c = [c] := by
    refine if_neg ?_
    rintro rfl
    exact absurd (ink ' ' mem) (by decide)
  rw [text, List.flatMap_congr same, List.flatMap_singleton']

theorem opens {s : Text} (start : ∀ c ∈ s.head?, Text.isBlank c = false) :
    (separator x).Opens s := by
  intro c first r
  have ink : Text.isBlank c = false := start c first
  have stays : (separator x).text [c] = [c] := text_of_ink (by simpa using ink)
  have capital := text_of_ink (x := x) (Text.keepsInk_upperChar c ink).2
  rw [capital, show (separator x).paint c = [c] from (List.append_nil _).symm.trans stays]
  rfl

theorem admits {k : Typing} (unspaced : k.IsUnspaced) : (separator x).Admits k := by
  have head {s : Text} (ink : ∀ c ∈ s, Text.isBlank c = false) :
      ∀ c ∈ s.head?, Text.isBlank c = false := fun c first => ink c (List.mem_of_mem_head? first)
  cases k with
  | plain s => exact ⟨fun _ _ => trivial, opens unspaced.1⟩
  | glued s => exact ⟨fun _ _ => trivial, opens (head unspaced.1)⟩
  | stop mark => exact text_of_ink unspaced.1
  | comma mark => exact text_of_ink unspaced.1
  | affix s =>
    refine ⟨fun _ _ => trivial, opens (head fun c mem => ?_)⟩
    exact unspaced.1 c (Affix.content_subset s mem)

theorem closed (o : Orthography) : (separator x).Closed o := fun _ _ _ _ _ _ => trivial

theorem paintsTail {c d : Context} (h : (separator x).Paints c d)
    (output : d.output = (separator x).text c.output) (shown : c.ShowsWord) :
    (separator x).PaintsTail c d := by
  intro n le
  obtain ⟨core, whole, front, rfl⟩ := shown.output
  have whole' : d.output = (separator x).text front ++ c.last.word ++ d.pendingSeparator := by
    rw [output, whole, text_append, text_append, text_of_ink shown.ink, h.pendingSeparator]
  have ink : ∀ e ∈ Text.takeLast n c.last.word, Text.isBlank e = false := fun e mem =>
    shown.ink e ((Text.takeLast_suffix n c.last.word).subset mem)
  rw [Context.wordTail_eq whole', Context.wordTail_eq whole, Text.takeLast_append_right _ le,
    Text.takeLast_append_right _ le, text_of_ink ink]

/-- `w` shows `v` with another separator, and where nothing blank was typed last, or separators go
before words, the last word is in the output. -/
structure Tracks (x : Text) (style : Style) (blank : Bool) (v w : View) : Prop where
  shows : (separator x).Shows style.placement v w
  word : style.placement = .before ∨ blank = false →
    Context.ShowsWord ⟨style, v.last, v.screen.text⟩

namespace Tracks
variable {style : Style} {blank : Bool} {v w : View}

theorem apply_typing (h : Tracks x style blank v w) (keeps : style.orthography.keepsInk = true)
    {k : Typing} (unspaced : k.IsUnspaced)
    (apart : style.placement = .after → blank = true → k.mayJoin = false) :
    let a := k.action ⟨style, v.last, v.screen.text⟩
    k.action ⟨style, w.last, w.screen.text⟩ = (separator x).action a ∧
      Tracks x style false (v.apply a) (w.apply ((separator x).action a)) := by
  intro a
  have plain := h.shows.ready.toIsOrdinary
  have shown (join : k.mayJoin = true) : Context.ShowsWord ⟨style, v.last, v.screen.text⟩ := by
    refine h.word ?_
    cases placement : style.placement with
    | before => exact .inl rfl
    | after =>
      refine .inr (Bool.eq_false_iff.2 fun blank => ?_)
      rw [apart placement blank] at join
      cases join
  have tail (retypes : k.mayRetype = true) :=
    paintsTail h.shows.paints h.shows.text (shown (Typing.mayJoin_of_mayRetype retypes))
  obtain ⟨made, ready⟩ := h.shows.paints.typing tail h.shows.ready (closed _) (admits unspaced)
  have sound := sound_typing style h.shows.ready ready
  have taken : a.replace <:+ v.screen.text :=
    Typing.replace_suffix ⟨style, v.last, v.screen.text⟩ k
  exact ⟨made, h.shows.apply sound (edit_of_suffix taken), fun _ =>
    k.showsWord_action plain keeps unspaced shown⟩

theorem apply_silentCopy (h : Tracks x style blank v w) :
    Tracks x style true (v.apply v.last.silentCopy) (w.apply w.last.silentCopy) := by
  have next := h.shows.apply (sound_silentCopy h.shows.ready) (edit_of_suffix List.nil_suffix)
  rw [action_silentCopy, ← h.shows.last] at next
  refine ⟨next, fun kept => ?_⟩
  have before : style.placement = .before := kept.resolve_right (Bool.noConfusion ·)
  exact (h.word (.inl before)).silentCopy h.shows.ready.spaceChar
    (Context.pendingSeparator_before before)

theorem applyAll_actionsOf (h : Tracks x style blank v w)
    (keeps : style.orthography.keepsInk = true) {ks : List Typing}
    (unspaced : ∀ k ∈ ks, k.IsUnspaced)
    (apart : style.placement = .after → blank = true → ks.head?.any Typing.mayJoin = false) :
    Tracks x style (blank && ks.isEmpty) (v.applyAll (v.actionsOf style ks))
      (w.applyAll (w.actionsOf style ks)) := by
  induction ks generalizing v w blank with
  | nil =>
    rw [List.isEmpty_nil, Bool.and_true]
    exact h
  | cons k ks ih =>
    obtain ⟨made, next⟩ := h.apply_typing keeps (unspaced k (List.mem_cons_self ..)) apart
    rw [← made] at next
    have rest := ih next (fun k' mem => unspaced k' (List.mem_cons_of_mem k mem))
      fun _ blank => Bool.noConfusion blank
    rw [Bool.false_and] at rest
    rw [List.isEmpty_cons, Bool.and_false]
    exact rest

theorem applyAll_actionsFor (h : Tracks x style blank v w)
    (keeps : style.orthography.keepsInk = true) {t : Translation} (unspaced : t.isUnspaced = true)
    (apart : style.placement = .after → blank = true → t.mayJoin = false) :
    Tracks x style t.typesNothing (v.applyAll (v.actionsFor style t))
      (w.applyAll (w.actionsFor style t)) := by
  obtain ⟨_, ink⟩ := Translation.typings_of_isUnspaced unspaced
  unfold Translation.mayJoin at apart
  unfold Translation.typesNothing View.actionsFor
  cases typings : t.typings with
  | nil => exact h.apply_silentCopy
  | cons k ks =>
    rw [typings] at ink apart
    have all := h.applyAll_actionsOf keeps ink apart
    rw [List.isEmpty_cons, Bool.and_false] at all
    exact all

theorem foldl_add {b b' : Base} (h : Tracks x style blank b.view b'.view) (decided : b.tail = none)
    (decided' : b'.tail = none) (keeps : style.orthography.keepsInk = true)
    {ts : List Translation} (unspaced : ∀ t ∈ ts, t.isUnspaced = true)
    (first : style.placement = .after → ∀ t ∈ ts.head?, blank = true → t.mayJoin = false)
    (apart : style.placement = .after →
      ts.IsChain fun t u => t.typesNothing = true → u.mayJoin = false) :
    let e := ts.foldl (Base.add style) b
    let e' := ts.foldl (Base.add style) b'
    e.tail = none ∧ e'.tail = none ∧ (separator x).Shows style.placement e.view e'.view := by
  induction ts generalizing b b' blank with
  | nil => exact ⟨decided, decided', h.shows⟩
  | cons t ts ih =>
    have here : t.isUnspaced = true := unspaced t (List.mem_cons_self ..)
    obtain ⟨only, _⟩ := Translation.typings_of_isUnspaced here
    have next := h.applyAll_actionsFor keeps here fun after => first after t rfl
    rw [List.foldl_cons, List.foldl_cons, Base.add_of_onlyTypes style decided only,
      Base.add_of_onlyTypes style decided' only]
    refine ih next rfl rfl (fun u mem => unspaced u (List.mem_cons_of_mem t mem)) ?_ ?_
    · exact fun after => (List.isChain_cons.1 (apart after)).1
    · exact fun after => (List.isChain_cons.1 (apart after)).2

end Tracks

theorem ofText?_mode (x : Text) :
    Command.ofText? ("MODE:SET_SPACE:".toList ++ x) = some (.mode ("SET_SPACE:".toList ++ x)) := rfl

theorem setMode?_start (s : FormatterSettings) (x : Text) :
    (Formatter.startAction s).setMode? ("SET_SPACE:".toList ++ x) =
      some ((separator x).action (Formatter.startAction s)) := rfl

theorem shows_mode (s : FormatterSettings) (o : Orthography) (bare : Atom.IsBare x)
    {mode : Translation}
    (sets : mode.english = some ("\x7bMODE:SET_SPACE:".toList ++ x ++ ['\x7d'])) :
    (Formatter.opened s o mode).base.tail = none ∧
      (separator x).Shows s.spacePlacement (Base.ofStart (Formatter.startAction s)).view
        (Formatter.opened s o mode).base.view := by
  have name : Atom.IsBare "MODE:SET_SPACE:".toList := by decide
  exact (separator x).shows_opened s o sets (name.append bare) (ofText?_mode x) (setMode?_start s x)

end separator
end Repaint

namespace Formatter
open ServiceCommand Repaint

/-- A separator of one character, or any that is bare while the texts are kept whole, stands exactly
where spaces stand without the mode. With separators after words it is left open what a translation
that goes on the last word does right after a blank one. -/
theorem separator_mode_substitutes (s : FormatterSettings) {x : Text} (bare : Atom.IsBare x)
    {mode : Translation}
    (sets : mode.english = some ("\x7bMODE:SET_SPACE:".toList ++ x ++ ['\x7d']))
    {ts : List Translation} (unspaced : ∀ t ∈ ts, t.isUnspaced = true) :
    (x.length = 1 → ∀ batches batches' : List (List Translation),
      batches.flatten = ts → batches'.flatten = mode :: ts →
      ((new s .english).run (batches'.map typing)).rendered.text =
        Text.substitute ' ' x ((new s .english).run (batches.map typing)).rendered.text) ∧
    ((s.spacePlacement = .after →
        ts.IsChain fun t u => t.typesNothing = true → u.mayJoin = false) →
      ∀ cs cs' : List ServiceCommand, leftByAll cs = ts → leftByAll cs' = mode :: ts →
        (new s .english).followsHistory cs = true → (new s .english).followsHistory cs' = true →
        ((new s .english).run cs').rendered.text =
          Text.substitute ' ' x ((new s .english).run cs).rendered.text) := by
  let style : Style := ⟨s.spacePlacement, .english⟩
  obtain ⟨tail, shows⟩ := separator.shows_mode s .english bare sets
  constructor
  · intro one batches batches' plain opened
    have single (c : Char) : ((separator x).paint c).length = 1 := by
      change (if c = ' ' then x else [c]).length = 1
      split
      · exact one
      · rfl
    have resolves (t) (mem : t ∈ ts) :
        ((separator x).pairing single style.placement).Resolves style t := by
      obtain ⟨only, ink⟩ := Translation.typings_of_isUnspaced (unspaced t mem)
      exact Repaint.resolves single (separator.closed _) only fun k among =>
        separator.admits (ink k among)
    obtain ⟨v, w, views, shown, -, shown', -⟩ :=
      Pairing.holds_run_typing _ s .english plain opened ⟨shows, rfl, tail⟩ resolves
    rw [shown, shown']
    exact views.text
  · intro apart cs cs' plain opened follows follows'
    have hf := (holds_new s .english).run follows
    have hg := (holds_new s .english).run follows'
    let start := Base.ofStart (startAction s)
    have word : Context.ShowsWord ⟨style, start.view.last, start.view.screen.text⟩ :=
      ⟨⟨[], (Context.pendingSeparator_of_ink rfl (.inl rfl)).symm, List.nil_suffix⟩, by
        simp [start, Base.ofStart, startAction, Action.start]⟩
    have tracks : separator.Tracks x style false start.view (start.add style mode).view :=
      ⟨shows, fun _ => word⟩
    obtain ⟨decided, decided', shown⟩ :=
      tracks.foldl_add rfl tail Orthography.keepsInk_english unspaced (by simp) apart
    have viewF := hf.view none
    have viewG := hg.view none
    rw [show cs.foldl left [] = ts from plain, Base.settle_of_decided decided] at viewF
    rw [show cs'.foldl left [] = mode :: ts from opened, List.foldl_cons,
      Base.settle_of_decided decided'] at viewG
    rw [rendered_eq_shown hf.context, rendered_eq_shown hg.context, isSettled_run s _ cs,
      isSettled_run s _ cs', viewF, viewG]
    exact shown.text

/-- A separator that the words have letters of, and a word that is taken back again. -/
theorem separator_mode_substitutes_ably :
    let ts := ["able", "\x7b^ly\x7d\x7b,\x7d", " ", "\x7b&a\x7d\x7b&b\x7d next"].map
      Translation.ofEnglish
    let mode := Translation.ofEnglish "\x7bMODE:SET_SPACE:e \x7d"
    let oops := Translation.ofEnglish "oops"
    let s : FormatterSettings := { startCapitalized := true }
    let f := (new s .english).run [typing ts]
    let g := (new s .english).run [typing [mode, oops], .format { undo := [oops], new := ts }]
    g.rendered.text = Text.substitute ' ' ['e', ' '] f.rendered.text ∧
      f.rendered.text = " Ably, ab next".toList := by
  intro ts mode oops s f g
  have bare : Atom.IsBare ['e', ' '] := by decide
  have sets : mode.english = some ("\x7bMODE:SET_SPACE:".toList ++ ['e', ' '] ++ ['\x7d']) := rfl
  have unspaced : ∀ t ∈ ts, t.isUnspaced = true := by decide +kernel
  have apart : s.spacePlacement = .after →
      ts.IsChain fun t u => t.typesNothing = true → u.mayJoin = false := fun after => nomatch after
  have plain : leftByAll [typing ts] = ts := rfl
  have opened : leftByAll [typing [mode, oops], .format { undo := [oops], new := ts }] =
      mode :: ts :=
    rfl
  have same := (separator_mode_substitutes s bare sets unspaced).2 apart _ _ plain opened
    (by decide +kernel) (by decide +kernel)
  exact ⟨same, by decide +kernel⟩

/-- Texts of different lengths are not cut back together. With separators after words a suffix that
comes after a blank takes the separator for the end of the word, if there is one. -/
theorem separator_mode_cut :
    let mode := Translation.ofEnglish "\x7bMODE:SET_SPACE:\x7d"
    let ts := [Translation.ofOutlines [] (some (List.replicate 1024 'a')), .ofEnglish "b"]
    let us := ["able", " ", "\x7b^ly\x7d"].map Translation.ofEnglish
    let small : FormatterSettings := { undoLevels := 1 }
    let after : FormatterSettings := { spacePlacement := .after }
    (∀ t ∈ ts ++ us, t.isUnspaced = true) ∧
      ((new small .english).run [typing (mode :: ts)]).rendered.text ≠
        Text.substitute ' ' [] ((new small .english).run [typing ts]).rendered.text ∧
      ((new after .english).run [typing (mode :: us)]).rendered.text ≠
        Text.substitute ' ' [] ((new after .english).run [typing us]).rendered.text := by
  decide +kernel

end Formatter
end Stenotype
