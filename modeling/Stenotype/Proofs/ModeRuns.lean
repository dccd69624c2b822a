import Stenotype.Proofs.Lockstep
import Stenotype.Proofs.Repaint
import Stenotype.Proofs.Typings

/-!
# A run in a mode

A run that sets a mode first is compared with the run without it. What waits at the end of the
output for suffixes and marks is found at the same place in both, so every action is repainted; and
where the mode keeps the number of characters, both bases are cut back alike.
-/

set_option autoImplicit false

namespace Stenotype

theorem Style.resolve_braced (style : Style) {last : Action} {output : Text} {t : Translation}
    {m : Text} {command : Command} {a : Action}
    (english : t.english = some ('\x7b' :: (m ++ ['\x7d']))) (bare : Atom.IsBare m)
    (named : Command.ofText? m = some command)
    (ok : command.apply ⟨style, last, output⟩ = .ok (.resolved a)) :
    style.resolve last output t = [.resolved a] := by
  have named : Atom.command? ('\x7b' :: (m ++ ['\x7d'])) = some command := by
    rw [Atom.command?, Atom.meta?_braced, Option.bind_some, Atom.unescape_of_isBare bare, named]
  simp only [resolve, english, Atom.trimmed_of_isCommand bare.isCommand_braced,
    resolveAtoms_singleton, Context.resolveAtom_of_ok named ok]

theorem Base.add_of_braced (style : Style) {b : Base} (decided : b.tail = none) {t : Translation}
    {m : Text} {command : Command} {a : Action}
    (english : t.english = some ('\x7b' :: (m ++ ['\x7d']))) (bare : Atom.IsBare m)
    (named : Command.ofText? m = some command)
    (ok : command.apply ⟨style, b.view.last, b.view.screen.text⟩ = .ok (.resolved a)) :
    b.add style t = ⟨b.view.apply a, none⟩ := by
  rw [add_of_decided decided, style.resolve_braced english bare named ok]
  rfl

def Translation.onlyTypes (t : Translation) : Bool :=
  match t.english with
  | none => true
  | some english => (Atom.trimmed english).all fun a => (Typing.ofAtom? a).isSome

namespace View

def actionsOf (style : Style) : View → List Typing → List Action
  | _, [] => []
  | v, k :: ks =>
    let a := k.action ⟨style, v.last, v.screen.text⟩
    a :: actionsOf style (v.apply a) ks

def actionsFor (style : Style) (v : View) (t : Translation) : List Action :=
  match t.typings with
  | [] => [v.last.silentCopy]
  | ks => v.actionsOf style ks

end View

theorem Style.resolveAtoms_eq_actionsOf (style : Style) (v : View) {atoms : List Text}
    (typings : ∀ a ∈ atoms, (Typing.ofAtom? a).isSome = true) :
    style.resolveAtoms v.last v.screen.text atoms =
      (v.actionsOf style (atoms.filterMap Typing.ofAtom?)).map Slot.resolved := by
  induction atoms generalizing v with
  | nil => rfl
  | cons a as ih =>
    obtain ⟨k, typing⟩ := Option.isSome_iff_exists.1 (typings a (List.mem_cons_self ..))
    have rest := ih (v.type style k) fun b mem => typings b (List.mem_cons_of_mem a mem)
    have here : style.resolveAtoms v.last v.screen.text (a :: as) =
        .resolved (k.action ⟨style, v.last, v.screen.text⟩) ::
          style.resolveAtoms (v.type style k).last (v.type style k).screen.text as := by
      rw [resolveAtoms, Context.resolveAtom_of_typing _ typing]
      cases as <;> rfl
    rw [here, rest, List.filterMap_cons, typing]
    rfl

theorem Style.resolve_eq_actionsFor (style : Style) (v : View) {t : Translation}
    (only : t.onlyTypes = true) :
    style.resolve v.last v.screen.text t = (v.actionsFor style t).map Slot.resolved := by
  cases english : t.english with
  | none => simp only [resolve, View.actionsFor, Translation.typings, english,
      Context.resolveOutline_eq, View.actionsOf, List.map_cons, List.map_nil]
  | some english' =>
    simp only [Translation.onlyTypes, english, List.all_eq_true] at only
    have typings : t.typings = (Atom.trimmed english').filterMap Typing.ofAtom? := by
      simp only [Translation.typings, english]
    cases atoms : Atom.trimmed english' with
    | nil =>
      rw [atoms] at typings
      simp only [resolve, View.actionsFor, typings, english, atoms, List.filterMap_nil,
        List.map_cons, List.map_nil]
    | cons atom rest =>
      rw [atoms] at only typings
      obtain ⟨k, typing⟩ := Option.isSome_iff_exists.1 (only atom (List.mem_cons_self ..))
      have all := style.resolveAtoms_eq_actionsOf v only
      simp only [List.filterMap_cons, typing] at all typings
      simp only [resolve, View.actionsFor, typings, english, atoms, all]

theorem Base.add_of_onlyTypes (style : Style) {b : Base} (decided : b.tail = none) {t : Translation}
    (only : t.onlyTypes = true) :
    b.add style t = ⟨b.view.applyAll (b.view.actionsFor style t), none⟩ := by
  rw [add_of_decided decided, style.resolve_eq_actionsFor b.view only, extend_resolved]

namespace View

/-- Where a separator seems to be pending the output ends with one. -/
def IsSpaced (p : SpacePlacement) (v : View) : Prop :=
  p = .before ∨ v.last.nextAttach = true ∨ v.last.text = [] ∨
    [' '] <:+ v.last.text ∧ [' '] <:+ v.screen.text

theorem IsSpaced.dropFront {p : SpacePlacement} {v : View} (h : v.IsSpaced p) {n : Nat}
    (room : n < v.screen.text.length) : (v.dropFront n).IsSpaced p := by
  refine h.imp_right (Or.imp_right (Or.imp_right (And.imp_right ?_)))
  rintro ⟨front, text⟩
  refine ⟨front.drop n, ?_⟩
  rw [← text, List.length_append, List.length_singleton] at room
  change _ = v.screen.text.drop n
  rw [← text, List.drop_append_of_le_length (by omega)]

theorem isSpaced_apply_of_text_nil {p : SpacePlacement} (v : View) {a : Action} (text : a.text = []) :
    (v.apply a).IsSpaced p := .inr (.inr (.inl text))

theorem isSpaced_apply_typing (style : Style) {last : Action} {output : Text}
    (ordinary : last.IsOrdinary) (k : Typing) (v : View) :
    (v.apply (k.action ⟨style, last, output⟩)).IsSpaced style.placement := by
  obtain ⟨p, puts, -⟩ := k.puts (c := ⟨style, last, output⟩) ordinary
  have made := puts.eq_put ⟨style, last, output⟩ ⟨rfl, rfl⟩
  cases placement : style.placement with
  | before => exact .inl rfl
  | after =>
    rw [Context.put_after placement puts.fits.ordinary.spaceChar] at made
    rw [made]
    cases next : p.action.nextAttach with
    | true => exact .inr (.inl next)
    | false =>
      have separator : p.action.separator = [' '] := by
        rw [Action.separator, next]
        rfl
      have text := List.suffix_append p.text p.action.separator
      rw [separator] at text
      rw [separator]
      exact .inr (.inr (.inr ⟨text, text.trans (List.suffix_append _ _)⟩))

end View

namespace Repaint
variable {R : Repaint}

/-- `w` shows in the mode what `v` shows without it. -/
structure Shows (R : Repaint) (p : SpacePlacement) (v w : View) : Prop where
  ready : R.Ready v.last
  spaced : v.IsSpaced p
  last : w.last = R.action v.last
  text : w.screen.text = R.text v.screen.text

/-- The action keeps its word and flags to what the mode allows, wherever it is applied. -/
structure Sound (R : Repaint) (p : SpacePlacement) (a : Action) : Prop where
  ready : R.Ready a
  spaced : ∀ v : View, (v.apply a).IsSpaced p

theorem action_silentCopy (a : Action) : R.action a.silentCopy = (R.action a).silentCopy := rfl

theorem sound_silentCopy {p : SpacePlacement} {a : Action} (ready : R.Ready a) :
    R.Sound p a.silentCopy where
  ready := ⟨⟨ready.upper, ready.upperCarry, ready.case, ready.spaceChar⟩, ready.lower, ready.word⟩
  spaced v := v.isSpaced_apply_of_text_nil rfl

namespace Shows
variable {style : Style} {v w : View}

theorem pendingSeparator (h : R.Shows style.placement v w) :
    Context.pendingSeparator ⟨style, w.last, w.screen.text⟩ =
      R.text (Context.pendingSeparator ⟨style, v.last, v.screen.text⟩) := by
  have space := h.ready.spaceChar
  rcases h.spaced with before | next | none | ⟨text, output⟩
  · rw [Context.pendingSeparator_before before, Context.pendingSeparator_before before]
    rfl
  · have next' : w.last.nextAttach = true := by
      rw [h.last]
      exact next
    rw [Context.pendingSeparator_of_nextAttach next', Context.pendingSeparator_of_nextAttach next]
    rfl
  · have nothing : w.last.text = [] := by
      rw [h.last]
      exact (congrArg R.text none).trans rfl
    have plain : Context.pendingSeparator ⟨style, v.last, v.screen.text⟩ = [] :=
      Context.pendingSeparator_of_ink space (.inl none)
    rw [plain, Context.pendingSeparator]
    split
    · next ends =>
      have suffix := List.isSuffixOf_iff_suffix.1 ends.2.2.1
      rw [nothing] at suffix
      exact List.suffix_nil.1 suffix
    · rfl
  · have painted : R.text [' '] = R.spaceChar := (List.flatMap_singleton ..).trans R.space
    have closes {t : Text} (ends : [' '] <:+ t) : Text.endsWith R.spaceChar (R.text t) = true := by
      obtain ⟨front, rfl⟩ := ends
      rw [R.text_append, painted]
      exact List.isSuffixOf_iff_suffix.2 (List.suffix_append _ _)
    have closed {t : Text} (ends : [' '] <:+ t) : Text.endsWith [' '] t = true :=
      List.isSuffixOf_iff_suffix.2 ends
    rw [Context.pendingSeparator, Context.pendingSeparator, h.last, h.text, space]
    simp only [action, closes text, closes output, closed text, closed output, and_true]
    split
    · exact painted.symm
    · rfl

theorem paints (h : R.Shows style.placement v w) :
    R.Paints ⟨style, v.last, v.screen.text⟩ ⟨style, w.last, w.screen.text⟩ :=
  ⟨rfl, h.last, h.pendingSeparator⟩

theorem apply {p : SpacePlacement} (h : R.Shows p v w) {a : Action} (sound : R.Sound p a)
    (edits : (R.action a).edit (R.text v.screen.text) = R.text (a.edit v.screen.text)) :
    R.Shows p (v.apply a) (w.apply (R.action a)) :=
  ⟨sound.ready, sound.spaced v, rfl, (congrArg (R.action a).edit h.text).trans edits⟩

end Shows

theorem sound_typing (style : Style) {last : Action} {output : Text} (ready : R.Ready last)
    {k : Typing} (made : R.Ready (k.action ⟨style, last, output⟩)) :
    R.Sound style.placement (k.action ⟨style, last, output⟩) :=
  ⟨made, View.isSpaced_apply_typing style ready.toIsOrdinary k⟩

theorem shows_opened (s : FormatterSettings) (o : Orthography) {t : Translation} {m name : Text}
    (english : t.english = some ('\x7b' :: (m ++ ['\x7d']))) (bare : Atom.IsBare m)
    (named : Command.ofText? m = some (.mode name))
    (sets : (Formatter.startAction s).setMode? name = some (R.action (Formatter.startAction s))) :
    (Formatter.opened s o t).base.tail = none ∧
      R.Shows s.spacePlacement (Base.ofStart (Formatter.startAction s)).view
        (Formatter.opened s o t).base.view := by
  let start := Formatter.startAction s
  have ok : (Command.mode name).apply ⟨⟨s.spacePlacement, o⟩, start, []⟩ =
      .ok (.resolved (R.action start)) := by
    have set : Context.mode ⟨⟨s.spacePlacement, o⟩, start, []⟩ name = .ok (R.action start) := by
      have copy : Context.copyLast ⟨⟨s.spacePlacement, o⟩, start, []⟩ = start := rfl
      rw [Context.mode, copy, sets]
    rw [Command.apply, set]
    rfl
  have base : (Formatter.opened s o t).base =
      ⟨(Base.ofStart start).view.apply (R.action start), none⟩ :=
    Base.add_of_braced ⟨s.spacePlacement, o⟩ rfl english bare named ok
  have ready : R.Ready start :=
    ⟨⟨rfl, rfl, rfl, rfl⟩, rfl, by simp [start, Formatter.startAction, Action.start]⟩
  rw [base]
  exact ⟨rfl, ready, .inr (.inr (.inl rfl)), rfl, rfl⟩

section OneToOne
variable (single : ∀ c, (R.paint c).length = 1)
include single

theorem length_text (s : Text) : (R.text s).length = s.length := by
  induction s with
  | nil => rfl
  | cons c r ih =>
    rw [text, List.flatMap_cons, List.length_append, single c, ← text, ih, List.length_cons,
      Nat.add_comm]

theorem drop_text (n : Nat) (s : Text) : (R.text s).drop n = R.text (s.drop n) := by
  by_cases long : s.length ≤ n
  · rw [List.drop_eq_nil_of_le long, List.drop_eq_nil_of_le (by rwa [length_text single])]
    rfl
  · have split : R.text s = R.text (s.take n) ++ R.text (s.drop n) := by
      rw [← R.text_append, List.take_append_drop]
    rw [split]
    refine List.drop_left' ?_
    rw [length_text single, List.length_take]
    omega

theorem take_text (n : Nat) (s : Text) : (R.text s).take n = R.text (s.take n) := by
  have parts := List.take_append_drop n (R.text s)
  rw [drop_text single] at parts
  have whole : R.text (s.take n) ++ R.text (s.drop n) = R.text s := by
    rw [← R.text_append, List.take_append_drop]
  exact List.append_cancel_right (parts.trans whole.symm)

theorem edit_action (a : Action) (output : Text) :
    (R.action a).edit (R.text output) = R.text (a.edit output) := by
  rw [Action.edit, Action.edit, R.text_append, Text.dropLast, Text.dropLast, length_text single,
    ← take_text single]
  change List.take (output.length - (R.text a.replace).length) _ ++ _ = _
  rw [length_text single]
  rfl

theorem paintsTail {c d : Context} (h : R.Paints c d) (output : d.output = R.text c.output) :
    R.PaintsTail c d := by
  intro n _
  obtain ⟨core, whole⟩ := c.pendingSeparator_suffix
  have whole' : d.output = R.text core ++ d.pendingSeparator := by
    rw [output, h.pendingSeparator, ← R.text_append, whole]
  rw [Context.wordTail_eq whole', Context.wordTail_eq whole.symm, Text.takeLast, Text.takeLast,
    length_text single, drop_text single]

theorem Shows.length {p : SpacePlacement} {v w : View} (h : R.Shows p v w) :
    w.screen.text.length = v.screen.text.length := by
  rw [h.text, length_text single]

theorem Shows.dropFront {p : SpacePlacement} {v w : View} (h : R.Shows p v w) {n : Nat}
    (room : n + Base.keep ≤ v.screen.text.length) : R.Shows p (v.dropFront n) (w.dropFront n) := by
  have shorter : n < v.screen.text.length := by
    simp only [Base.keep] at room
    omega
  refine ⟨h.ready, h.spaced.dropFront shorter, h.last, ?_⟩
  change w.screen.text.drop n = _
  rw [h.text, drop_text single]
  rfl

def pairing (p : SpacePlacement) : Pairing where
  holds := R.Shows p
  length h := h.length single
  dropFront h room := h.dropFront single room

theorem Shows.actionsOf {style : Style} {v w : View} (h : R.Shows style.placement v w)
    (closed : R.Closed style.orthography) {ks : List Typing} (admits : ∀ k ∈ ks, R.Admits k) :
    w.actionsOf style ks = (v.actionsOf style ks).map R.action ∧
      ∀ a ∈ v.actionsOf style ks, R.Sound style.placement a := by
  induction ks generalizing v w with
  | nil => exact ⟨rfl, by simp [View.actionsOf]⟩
  | cons k ks ih =>
    have tail := paintsTail single h.paints h.text
    obtain ⟨made, ready⟩ :=
      h.paints.typing (fun _ => tail) h.ready closed (admits k (List.mem_cons_self ..))
    have sound := sound_typing style h.ready ready
    have next := h.apply sound (edit_action single _ _)
    rw [← made] at next
    obtain ⟨rest, sounds⟩ := ih next fun k' mem => admits k' (List.mem_cons_of_mem k mem)
    refine ⟨?_, List.forall_mem_cons.2 ⟨sound, sounds⟩⟩
    rw [View.actionsOf, rest, made]
    rfl

theorem Shows.applyAll {p : SpacePlacement} {v w : View} (h : R.Shows p v w) {as : List Action}
    (sound : ∀ a ∈ as, R.Sound p a) : R.Shows p (v.applyAll as) (w.applyAll (as.map R.action)) := by
  induction as generalizing v w with
  | nil => exact h
  | cons a as ih =>
    have next := h.apply (sound a (List.mem_cons_self ..)) (edit_action single a _)
    exact ih next fun b mem => sound b (List.mem_cons_of_mem a mem)

theorem resolves {style : Style} (closed : R.Closed style.orthography) {t : Translation}
    (only : t.onlyTypes = true) (admits : ∀ k ∈ t.typings, R.Admits k) :
    (R.pairing single style.placement).Resolves style t := by
  intro v w h
  have made : w.actionsFor style t = (v.actionsFor style t).map R.action ∧
      ∀ a ∈ v.actionsFor style t, R.Sound style.placement a := by
    have shows : R.Shows style.placement v w := h
    unfold View.actionsFor
    cases typings : t.typings with
    | nil =>
      refine ⟨?_, by simpa using sound_silentCopy shows.ready⟩
      rw [shows.last]
      rfl
    | cons k ks => exact shows.actionsOf single closed (typings ▸ admits)
  refine ⟨v.actionsFor style t, (v.actionsFor style t).map R.action,
    style.resolve_eq_actionsFor v only, ?_, fun v' w' h' _ _ => ?_⟩
  · rw [style.resolve_eq_actionsFor w only, made.1]
  · exact Shows.applyAll single h' made.2

end OneToOne
end Repaint
end Stenotype
