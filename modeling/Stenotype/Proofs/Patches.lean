import Stenotype.Proofs.Splitting
import Stenotype.Proofs.PlainWord

/-!
# Patches

Plain text, marks, glue and affixes take back at most the end of the last word and type text after
it. What they take back and type follows from the action before them and the suffix rules; where the
separators go is decided when the patch is placed.
-/

set_option autoImplicit false

namespace Stenotype

theorem Text.length_le_of_mem_words {s w : Text} (h : w ∈ words s) : w.length ≤ s.length := by
  fun_induction words s generalizing w with
  | case1 => simp at h
  | case2 c r blank ih => exact Nat.le_succ_of_le (ih h)
  | case3 c ink => simp_all
  | case4 c ink d t blank ih =>
    rcases List.mem_cons.1 h with rfl | h
    · simp
    · exact Nat.le_succ_of_le (ih h)
  | case5 c ink d t ink' none ih => simp_all
  | case6 c ink d t ink' v vs eq ih =>
    simp only [eq] at h ih
    rcases List.mem_cons.1 h with rfl | h
    · exact Nat.succ_le_succ (ih (List.mem_cons_self ..))
    · exact Nat.le_succ_of_le (ih (List.mem_cons_of_mem _ h))

theorem Text.length_rightmostWord_le (s : Text) : (rightmostWord s).length ≤ s.length := by
  rw [rightmostWord, List.getLastD_eq_getLast?]
  cases h : (words s).getLast? with
  | none => exact Nat.zero_le _
  | some w => exact length_le_of_mem_words (List.mem_of_getLast? h)

/-- Plain text, or a command that only types text. -/
inductive Typing
  | plain (text : Text)
  | glued (text : Text)
  | stop (mark : Text)
  | comma (mark : Text)
  | affix (text : Text)

namespace Typing

def ofCommand? : Command → Option Typing
  | .stop mark => some (stop mark)
  | .comma mark => some (comma mark)
  | .glue text => some (glued text)
  | .attach text => some (affix text)
  | _ => none

def ofMeta? (s : Text) : Option Typing :=
  match Command.ofText? s with
  | none => some (plain s)
  | some command => ofCommand? command

def ofAtom? (atom : Text) : Option Typing :=
  match Atom.meta? atom with
  | none => some (plain (Atom.unescape atom))
  | some s => ofMeta? (Atom.unescape s)

def ofOutline (outline : Text) : Typing :=
  if isNumberOutline outline then glued (Text.substitute '-' [] outline) else plain outline

def action (c : Context) : Typing → Action
  | plain s => c.renderWord c.newAction s
  | glued s => c.glue s
  | stop mark => c.stop mark
  | comma mark => c.comma mark
  | affix s => c.attach s

def attachesTo (last : Action) : Typing → Bool
  | plain _ => false
  | glued _ => last.glue
  | stop _ => true
  | comma _ => true
  | affix s => (Affix.ofText s).attachesBefore

end Typing

namespace Translation

/-- What a translation types, if it only types text. -/
def typings (t : Translation) : List Typing :=
  match t.english with
  | none => [Typing.ofOutline t.outline]
  | some english => (Atom.trimmed english).filterMap Typing.ofAtom?

/-- The translation is not blank, and all its atoms are text, marks, glue or affixes. -/
def isTextual (t : Translation) : Bool :=
  match t.english with
  | none => true
  | some english =>
    !(Atom.trimmed english).isEmpty && (Atom.trimmed english).all fun a => (Typing.ofAtom? a).isSome

end Translation

namespace Context

theorem resolveAtom_of_typing (c : Context) {atom : Text} {k : Typing}
    (typing : Typing.ofAtom? atom = some k) : c.resolveAtom atom = .resolved (k.action c) := by
  unfold Typing.ofAtom? at typing
  unfold resolveAtom
  cases h : Atom.meta? atom with
  | none =>
    simp only [h, Option.some.injEq] at typing
    subst typing
    rfl
  | some s =>
    simp only [h, Typing.ofMeta?] at typing
    simp only [resolveMeta]
    cases names : Command.ofText? (Atom.unescape s) with
    | none =>
      simp only [names, Option.some.injEq] at typing
      subst typing
      rfl
    | some command =>
      simp only [names] at typing ⊢
      cases command <;> simp only [Typing.ofCommand?, Option.some.injEq, reduceCtorEq] at typing <;>
        subst typing <;> rfl

theorem resolveOutline_eq (c : Context) (outline : Text) :
    c.resolveOutline outline = .resolved ((Typing.ofOutline outline).action c) := by
  unfold resolveOutline Typing.ofOutline
  split <;> rfl

end Context

def View.type (style : Style) (v : View) (k : Typing) : View :=
  v.apply (k.action ⟨style, v.last, v.screen.text⟩)

namespace Base

theorem extend_resolveAtoms_of_typing (style : Style) (v : View) {atoms : List Text}
    (textual : ∀ a ∈ atoms, (Typing.ofAtom? a).isSome = true) :
    extend v (style.resolveAtoms v.last v.screen.text atoms) =
      ⟨(atoms.filterMap Typing.ofAtom?).foldl (View.type style) v, none⟩ := by
  induction atoms generalizing v with
  | nil => rfl
  | cons a as ih =>
    obtain ⟨k, typing⟩ := Option.isSome_iff_exists.1 (textual a (List.mem_cons_self ..))
    have rest := ih (v.type style k) fun b hb => textual b (List.mem_cons_of_mem _ hb)
    have here : Style.resolveAtoms style v.last v.screen.text (a :: as) =
        .resolved (k.action ⟨style, v.last, v.screen.text⟩) ::
          style.resolveAtoms (v.type style k).last (v.type style k).screen.text as := by
      rw [Style.resolveAtoms, Context.resolveAtom_of_typing _ typing]
      cases as <;> rfl
    rw [here, extend_resolved_cons, List.filterMap_cons, typing]
    exact rest

theorem add_of_textual (style : Style) {b : Base} {t : Translation} (decided : b.tail = none)
    (textual : t.isTextual = true) :
    b.add style t = ⟨t.typings.foldl (View.type style) b.view, none⟩ := by
  have open_end (next : Option Text) : b.settle next = b.view := by
    rw [settle, decided]
  cases english : t.english with
  | none =>
    have slots (last : Action) (output : Text) : style.resolve last output t =
        [.resolved ((Typing.ofOutline t.outline).action ⟨style, last, output⟩)] := by
      rw [Style.resolve, english, ← Context.resolveOutline_eq]
    change extend (b.settle (some t.firstLiteral)) (style.resolve _ _ t) = _
    rw [slots, open_end, Translation.typings, english]
    rfl
  | some english' =>
    simp only [Translation.isTextual, english, Bool.and_eq_true, Bool.not_eq_true',
      List.isEmpty_eq_false_iff, List.all_eq_true] at textual
    obtain ⟨ink, all⟩ := textual
    obtain ⟨a, as, atoms⟩ := List.exists_cons_of_ne_nil ink
    rw [add_of_atoms style b english atoms, open_end, ← atoms,
      extend_resolveAtoms_of_typing style _ all, Translation.typings, english]

theorem foldl_add_of_textual (style : Style) {b : Base} {ts : List Translation}
    (decided : b.tail = none) (textual : ∀ t ∈ ts, t.isTextual = true) :
    ts.foldl (add style) b =
      ⟨(ts.flatMap Translation.typings).foldl (View.type style) b.view, none⟩ := by
  induction ts generalizing b with
  | nil =>
    cases b
    cases decided
    rfl
  | cons t ts ih =>
    rw [List.foldl_cons, add_of_textual style decided (textual t (List.mem_cons_self ..)),
      ih rfl fun u hu => textual u (List.mem_cons_of_mem _ hu), List.flatMap_cons,
      List.foldl_append]

end Base

/-- An action, less what it types and takes back: the text that it is about, and how much of the last
word it takes back. -/
structure Patch where
  action : Action
  text : Text
  retyped : Nat := 0

/-- No case is pending, and separators are spaces. -/
structure Action.IsOrdinary (a : Action) : Prop where
  upper : a.upper = false
  upperCarry : a.upperCarry = false
  case : a.case = none
  spaceChar : a.spaceChar = [' ']

namespace Context

def put (c : Context) (p : Patch) : Action :=
  c.place { p.action with replace := c.wordTail p.retyped } p.text

/-- The same suffix rules, and last actions that differ in what they typed and took back at most. -/
structure Resembles (c d : Context) : Prop where
  orthography : d.orthography = c.orthography
  last : d.last = { c.last with text := d.last.text, replace := d.last.replace }

theorem wordTail_zero (c : Context) : c.wordTail 0 = [] := by
  obtain ⟨front, whole⟩ := c.pendingSeparator_suffix
  have tail : Text.takeLast c.pendingSeparator.length c.output = c.pendingSeparator := by
    rw [← whole, Text.takeLast]
    exact List.drop_left' (by rw [List.length_append]; omega)
  have cut : Text.beforeEnd? c.pendingSeparator c.pendingSeparator = some [] :=
    Text.beforeEnd?_eq_some_iff.2 rfl
  rw [wordTail, Nat.zero_add, tail, cut]
  rfl

theorem put_of_retyped_zero (c : Context) {a : Action} (kept : a.replace = []) (s : Text) :
    c.put { action := a, text := s } = c.place a s := by
  rw [put, wordTail_zero, ← kept]

theorem applyModes_of_default {a : Action} (case : a.case = none) (spaceChar : a.spaceChar = [' '])
    (attached : Bool) (s : Text) : applyModes a attached s = s := by
  rw [applyModes, case, spaceChar]
  exact Text.substitute_self ' ' s

end Context

/-- What a patch asks of the output of `last` is there, and its word is text that is there after it. -/
structure Patch.Fits (p : Patch) (last : Action) : Prop where
  ordinary : p.action.IsOrdinary
  retyped : p.retyped ≤ last.word.length
  attached : p.retyped ≠ 0 → p.action.prevAttach = true
  word : p.action.word.length + p.retyped ≤ last.word.length + p.text.length

namespace Context
variable {c : Context}

theorem Resembles.eq {d : Context} (h : c.Resembles d) :
    ∃ placement text replace output,
      d = ⟨⟨placement, c.orthography⟩, { c.last with text := text, replace := replace }, output⟩ := by
  obtain ⟨⟨placement, orthography⟩, last, output⟩ := d
  obtain ⟨rfl, last_eq⟩ := h
  exact ⟨placement, last.text, last.replace, output, by rw [← last_eq]⟩

/-- `make` places the patch `p` in every context that resembles `c`. -/
structure Puts (c : Context) (make : Context → Action) (p : Patch) : Prop where
  fits : p.Fits c.last
  eq_put : ∀ d, c.Resembles d → make d = d.put p

theorem puts_mark (plain : c.last.IsOrdinary) (capitalize : Bool) (mark : Text) :
    c.Puts (fun d => d.place { d.newAction with prevAttach := true, capitalize := capitalize } mark)
      { action := { c.newAction with prevAttach := true, capitalize := capitalize }, text := mark } where
  fits := ⟨⟨rfl, rfl, plain.case, plain.spaceChar⟩, Nat.zero_le _, fun h => absurd rfl h,
    Nat.zero_le _⟩
  eq_put d h := by
    obtain ⟨placement, text, replace, output, rfl⟩ := h.eq
    exact (put_of_retyped_zero _ rfl mark).symm

theorem length_joinedWord_le (word s : Text) (glued : Bool) :
    (if glued then word ++ Text.rightmostWord s else Text.rightmostWord s).length ≤
      word.length + s.length := by
  have short := Text.length_rightmostWord_le s
  split
  · rw [List.length_append]
    omega
  · omega

theorem wantsUpper_of_ordinary (plain : c.last.IsOrdinary) (attached : Bool) :
    c.wantsUpper attached = false := by
  rw [wantsUpper, plain.upper, plain.upperCarry]
  rfl

theorem puts_renderWord (plain : c.last.IsOrdinary) {a : Action} (ordinary : a.IsOrdinary)
    (kept : a.replace = []) (s : Text) :
    ∃ p, c.Puts (fun d => d.renderWord a s) p ∧ p.action.prevAttach = a.prevAttach := by
  let attached := c.isAttached a
  let word := Text.rightmostWord (c.applyOneShot s attached)
  refine ⟨
    { action :=
        { a with
          word := if a.glue && attached then c.last.word ++ word else word
          upperCarry := c.wantsUpper attached }
      text := c.applyOneShot s attached }, ⟨?_, fun d h => ?_⟩, rfl⟩
  · exact
      { ordinary :=
          ⟨ordinary.upper, wantsUpper_of_ordinary plain _, ordinary.case, ordinary.spaceChar⟩
        retyped := Nat.zero_le _
        attached := fun h => absurd rfl h
        word := length_joinedWord_le _ _ _ }
  · obtain ⟨placement, text, replace, output, rfl⟩ := h.eq
    refine Eq.trans ?_ (put_of_retyped_zero _ (by exact kept) _).symm
    rw [renderWord, applyModes_of_default ordinary.case ordinary.spaceChar]
    rfl

theorem puts_orthographyBreak (plain : c.last.IsOrdinary) {a : Action} (ordinary : a.IsOrdinary)
    (kept : a.replace = []) :
    ∃ p, c.Puts (fun d => d.orthographyBreak a) p ∧ p.action.prevAttach = a.prevAttach := by
  refine ⟨
    { action :=
        { a with
          orthography := false, word := c.last.word, capitalize := c.last.capitalize
          lower := c.last.lower, upper := c.last.upper, upperCarry := c.last.upperCarry }
      text := [] }, ⟨?_, fun d h => ?_⟩, rfl⟩
  · exact
      { ordinary := ⟨plain.upper, plain.upperCarry, ordinary.case, ordinary.spaceChar⟩
        retyped := Nat.zero_le _
        attached := fun h => absurd rfl h
        word := Nat.le_refl _ }
  · obtain ⟨placement, text, replace, output, rfl⟩ := h.eq
    exact (put_of_retyped_zero _ (by exact kept) []).symm

theorem rewriteWord_eq (carry : c.last.upperCarry = false) {a : Action} (kept : a.replace = [])
    (content : Text) :
    let new := c.orthography.addSuffix c.last.word content
    let common := Text.commonLength c.last.word new
    c.rewriteWord a content =
      ({ a with
          replace := c.wordTail (c.last.word.length - common), word := Text.rightmostWord new },
        new.drop common) := by
  intro new common
  simp only [rewriteWord, carry, Bool.false_eq_true, ↓reduceIte, Prod.mk.injEq]
  split
  · next same =>
    rw [same, wordTail_zero, ← kept]
    exact ⟨rfl, rfl⟩
  · exact ⟨rfl, rfl⟩

theorem puts_suffix (plain : c.last.IsOrdinary) {a : Action} (ordinary : a.IsOrdinary)
    (kept : a.replace = []) (attaches : a.prevAttach = true) (x : Affix) :
    ∃ p, c.Puts (fun d => d.suffix a x) p ∧ p.action.prevAttach = true := by
  cases rules : c.usesOrthography x with
  | true =>
    -- what is typed and how much is retyped is told by the two words, whatever the output is
    let new := c.orthography.addSuffix c.last.word x.content
    let common := Text.commonLength c.last.word new
    refine ⟨
      { action := { a with word := Text.rightmostWord new }
        text := new.drop common
        retyped := c.last.word.length - common }, ⟨?_, fun d h => ?_⟩, attaches⟩
    · have short := Text.length_rightmostWord_le new
      have le_old : common ≤ c.last.word.length := Text.commonLength_le_left _ _
      have le_new : common ≤ new.length := Text.commonLength_le_right _ _
      exact
        { ordinary := ⟨ordinary.upper, ordinary.upperCarry, ordinary.case, ordinary.spaceChar⟩
          retyped := Nat.sub_le _ _
          attached := fun _ => attaches
          word := by
            rw [List.length_drop]
            change (Text.rightmostWord new).length + (c.last.word.length - common) ≤ _
            omega }
    · obtain ⟨placement, text, replace, output, rfl⟩ := h.eq
      let d : Context :=
        ⟨⟨placement, c.orthography⟩, { c.last with text := text, replace := replace }, output⟩
      have same : d.last.IsOrdinary :=
        ⟨plain.upper, plain.upperCarry, plain.case, plain.spaceChar⟩
      have uses : d.usesOrthography x = true := rules
      change d.suffix a x = _
      rw [suffix, uses, if_pos rfl, rewriteWord_eq same.upperCarry kept]
      exact congrArg (d.place _) (applyModes_of_default ordinary.case ordinary.spaceChar true _)
  | false =>
    let typed := c.applyOneShot x.content true
    refine ⟨
      { action :=
          { a with
            upperCarry := c.wantsUpper true, word := Text.rightmostWord (c.last.word ++ typed) }
        text := typed }, ⟨?_, fun d h => ?_⟩, attaches⟩
    · have short := Text.length_rightmostWord_le (c.last.word ++ typed)
      rw [List.length_append] at short
      exact
        { ordinary :=
            ⟨ordinary.upper, wantsUpper_of_ordinary plain _, ordinary.case, ordinary.spaceChar⟩
          retyped := Nat.zero_le _
          attached := fun h => absurd rfl h
          word := short }
    · obtain ⟨placement, text, replace, output, rfl⟩ := h.eq
      let d : Context :=
        ⟨⟨placement, c.orthography⟩, { c.last with text := text, replace := replace }, output⟩
      have uses : d.usesOrthography x = false := rules
      refine Eq.trans ?_ (put_of_retyped_zero _ (by exact kept) _).symm
      change d.suffix a x = _
      rw [suffix, uses, if_neg Bool.false_ne_true, extendWord]
      exact congrArg (d.place _) (applyModes_of_default ordinary.case ordinary.spaceChar true _)

theorem Resembles.newAction_eq {d : Context} (h : c.Resembles d) : d.newAction = c.newAction := by
  obtain ⟨placement, text, replace, output, rfl⟩ := h.eq
  rfl

theorem ordinary_newAction (plain : c.last.IsOrdinary) : c.newAction.IsOrdinary :=
  ⟨rfl, rfl, plain.case, plain.spaceChar⟩

theorem ordinary_mark (x : Affix) {a : Action} (ordinary : a.IsOrdinary) :
    (x.mark a).IsOrdinary := by
  unfold Affix.mark
  split <;> exact ⟨ordinary.upper, ordinary.upperCarry, ordinary.case, ordinary.spaceChar⟩

theorem puts_attach (plain : c.last.IsOrdinary) (s : Text) :
    ∃ p, c.Puts (fun d => d.attach s) p ∧
      p.action.prevAttach = (Affix.ofText s).attachesBefore := by
  let x := Affix.ofText s
  let a := x.mark c.newAction
  have ordinary : a.IsOrdinary := ordinary_mark x (ordinary_newAction plain)
  have kept : a.replace = [] := replace_mark x _
  have attaches : a.prevAttach = x.attachesBefore := prevAttach_mark x _
  have attach_eq (d : Context) (h : c.Resembles d) : d.attach s =
      if x.content.isEmpty then d.orthographyBreak a
      else if !x.attachesBefore then d.renderWord a x.content
      else d.suffix a x := by
    rw [attach, h.newAction_eq]
  by_cases empty : x.content.isEmpty = true
  · obtain ⟨p, puts, prevAttach⟩ := puts_orthographyBreak plain ordinary kept
    refine ⟨p, ⟨puts.fits, fun d h => ?_⟩, prevAttach.trans attaches⟩
    rw [attach_eq d h, if_pos empty]
    exact puts.eq_put d h
  · cases before : x.attachesBefore with
    | false =>
      obtain ⟨p, puts, prevAttach⟩ := puts_renderWord plain ordinary kept x.content
      refine ⟨p, ⟨puts.fits, fun d h => ?_⟩, prevAttach.trans (attaches.trans before)⟩
      rw [attach_eq d h, if_neg empty, before]
      exact puts.eq_put d h
    | true =>
      obtain ⟨p, puts, prevAttach⟩ := puts_suffix plain ordinary kept (attaches.trans before) x
      refine ⟨p, ⟨puts.fits, fun d h => ?_⟩, prevAttach⟩
      rw [attach_eq d h, if_neg empty, before]
      exact puts.eq_put d h

end Context

theorem Typing.puts (k : Typing) {c : Context} (plain : c.last.IsOrdinary) :
    ∃ p, c.Puts (fun d => k.action d) p ∧ p.action.prevAttach = k.attachesTo c.last := by
  cases k with
  | plain s =>
    obtain ⟨p, puts, prevAttach⟩ :=
      Context.puts_renderWord plain (Context.ordinary_newAction plain) rfl s
    refine ⟨p, ⟨puts.fits, fun d h => ?_⟩, prevAttach⟩
    rw [← puts.eq_put d h, ← h.newAction_eq]
    rfl
  | glued s =>
    let a : Action := { c.newAction with glue := true, prevAttach := c.last.glue }
    obtain ⟨p, puts, prevAttach⟩ :=
      Context.puts_renderWord plain (a := a) ⟨rfl, rfl, plain.case, plain.spaceChar⟩ rfl s
    refine ⟨p, ⟨puts.fits, fun d h => ?_⟩, prevAttach⟩
    rw [← puts.eq_put d h]
    obtain ⟨placement, text, replace, output, rfl⟩ := h.eq
    rfl
  | stop mark => exact ⟨_, Context.puts_mark plain true mark, rfl⟩
  | comma mark => exact ⟨_, Context.puts_mark plain false mark, rfl⟩
  | affix s => exact Context.puts_attach plain s

end Stenotype
