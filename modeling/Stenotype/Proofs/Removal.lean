import Stenotype.Proofs.Suffix

/-!
# What is taken back is there

An action names the text that it takes back, and only the length of that text counts when it is
applied. Every command finds what it names at the end of the output: a pending separator, the last
word with the blanks after it, the text of the last action, or as much of the end as the rules
change. So all that base and history show is what their actions name, taken back and typed in turn.
-/

set_option autoImplicit false

namespace Stenotype

namespace Slot

def alternatives : Slot → List Action
  | resolved a => [a]
  | pending l => [l.matched, l.unmatched]

/-- Whatever the slot turns out to be, the output ends with what is taken back. -/
def TakesFrom (s : Slot) (output : Text) : Prop := ∀ a ∈ s.alternatives, a.replace <:+ output

theorem takesFrom_resolved {a : Action} {output : Text} :
    (resolved a).TakesFrom output ↔ a.replace <:+ output := by
  simp [TakesFrom, alternatives]

theorem takesFrom_of_replace_eq_nil {a : Action} (output : Text) (kept : a.replace = []) :
    (resolved a).TakesFrom output := by
  rw [takesFrom_resolved, kept]
  exact List.nil_suffix

theorem action_mem_alternatives (s : Slot) (next : Option Text) :
    s.action next ∈ s.alternatives := by
  cases s with
  | resolved a => exact List.mem_singleton_self a
  | pending l =>
    cases next with
    | none => simp [action, alternatives]
    | some t =>
      simp only [action, LookAhead.decide, alternatives]
      split <;> simp

theorem TakesFrom.action {s : Slot} {output : Text} (h : s.TakesFrom output)
    (next : Option Text) : (s.action next).replace <:+ output :=
  h _ (s.action_mem_alternatives next)

theorem TakesFrom.settle {s : Slot} {output : Text} (h : s.TakesFrom output)
    (next : Option Text) : (s.settle next).TakesFrom output := by
  cases next with
  | none => cases s <;> exact h
  | some t =>
    rw [settle_some, takesFrom_resolved]
    exact h.action _

end Slot

namespace Context
variable {c : Context}

theorem replace_place_suffix {a : Action} (kept : a.replace = []) (s : Text) :
    (c.place a s).replace <:+ c.output := by
  unfold place
  split
  · rw [kept]
    exact List.nil_suffix
  · dsimp only
    split
    · rw [kept]
      exact c.pendingSeparator_suffix
    · rw [kept]
      exact List.nil_suffix

theorem replace_renderWord_suffix {a : Action} (kept : a.replace = []) (s : Text) :
    (c.renderWord a s).replace <:+ c.output :=
  replace_place_suffix (by exact kept) _

theorem wordTail_suffix (n : Nat) : c.wordTail n ++ c.pendingSeparator <:+ c.output := by
  obtain ⟨core, output⟩ := c.pendingSeparator_suffix
  rw [wordTail_eq output.symm, ← output, List.suffix_append_self_iff]
  exact Text.takeLast_suffix n core

theorem replace_suffix_suffix {a : Action} (kept : a.replace = []) (attaches : a.prevAttach = true)
    (x : Affix) : (c.suffix a x).replace <:+ c.output := by
  cases rules : c.usesOrthography x with
  | true =>
    rw [replace_suffix kept attaches rules]
    exact wordTail_suffix _
  | false =>
    rw [suffix, rules, if_neg Bool.false_ne_true]
    exact replace_place_suffix (by exact kept) _

theorem replace_attach_suffix (s : Text) : (c.attach s).replace <:+ c.output := by
  let x := Affix.ofText s
  have kept : (x.mark c.newAction).replace = [] := replace_mark x _
  change (if x.content.isEmpty then c.orthographyBreak (x.mark c.newAction)
    else if !x.attachesBefore then c.renderWord (x.mark c.newAction) x.content
    else c.suffix (x.mark c.newAction) x).replace <:+ c.output
  split
  · exact replace_place_suffix (by exact kept) _
  · split
    · exact replace_renderWord_suffix kept _
    · next attaches =>
      exact replace_suffix_suffix kept ((prevAttach_mark x _).trans (by simpa using attaches)) x

theorem replace_carryCapitalize_suffix (s : Text) :
    (c.carryCapitalize s).replace <:+ c.output := by
  let x := Affix.ofCarryText s
  let a := x.mark { c.newAction with capitalize := c.last.capitalize }
  have kept : a.replace = [] := replace_mark x _
  have made : c.carryCapitalize s =
      if x.content.isEmpty && !x.attachesBefore && !x.attachesAfter then
        { a with word := c.last.word }
      else c.place
        { a with
          word := Text.rightmostWord
            (if c.isAttached a then c.last.word ++ x.content else x.content) } x.content := rfl
  rw [made]
  split
  · change a.replace <:+ _
    rw [kept]
    exact List.nil_suffix
  · exact replace_place_suffix (by exact kept) _

theorem lastWordWithTail?_suffix {w tail : Text} (found : c.lastWordWithTail? = some (w, tail)) :
    w ++ tail <:+ c.output := by
  obtain ⟨v, last, same⟩ := Option.map_eq_some_iff.1 found
  obtain ⟨rfl, rfl⟩ := Prod.mk.inj same
  obtain ⟨ws, all⟩ := List.getLast?_eq_some_iff.1 last
  obtain ⟨front, blanks, whole, blank, -⟩ := Text.append_of_words all
  obtain ⟨ne, ink⟩ := Text.mem_words (List.mem_of_getLast? last)
  have tail : Text.trailingBlanks c.output = blanks := by
    rw [whole]
    exact Text.trailingBlanks_append
      (.inr (Text.endsInInk_append _ (Text.endsInInk_of_ink ne ink))) blank
  exact ⟨front, by rw [tail, whole, List.append_assoc]⟩

theorem replace_retroCase_suffix (case : LetterCase) :
    (c.retroCase case).replace <:+ c.output := by
  unfold retroCase
  split
  · exact List.nil_suffix
  · next found => exact lastWordWithTail?_suffix found

theorem replace_retroCurrency_suffix (form : Text) :
    (c.retroCurrency form).replace <:+ c.output := by
  unfold retroCurrency
  split
  · exact List.nil_suffix
  · next found =>
    split
    · exact List.nil_suffix
    · exact lastWordWithTail?_suffix found

theorem replace_deleteSpace_suffix : c.deleteSpace.replace <:+ c.output := by
  unfold deleteSpace
  split
  · exact List.nil_suffix
  · next word tail found =>
    dsimp only
    split
    · exact List.nil_suffix
    · obtain ⟨front, whole⟩ := lastWordWithTail?_suffix found
      have head : Text.dropLast (word.length + tail.length) c.output = front := by
        rw [← whole, ← List.length_append, Text.dropLast_append_length]
      have parts := Text.trimEnd_append_trailingBlanks front
      refine ⟨Text.trimEnd front, ?_⟩
      rw [head, List.append_assoc, ← List.append_assoc, parts, whole]

theorem replace_insertSpace_suffix : c.insertSpace.replace <:+ c.output := by
  unfold insertSpace
  split
  · next h =>
    simp only [Bool.and_eq_true] at h
    exact List.isSuffixOf_iff_suffix.1 h.2
  · exact List.nil_suffix

theorem replace_mode {a : Action} {name : Text} (ok : c.mode name = .ok a) : a.replace = [] := by
  unfold mode at ok
  split at ok
  · next b set =>
    cases ok
    unfold Action.setMode? at set
    split at set
    · cases set
      rfl
    · split at set <;> cases set <;> rfl
  · cases ok

theorem takesFrom_ifNextMatches {args : Text} {l : LookAhead} (ok : c.ifNextMatches args = .ok l) :
    (Slot.pending l).TakesFrom c.output := by
  obtain ⟨_, matched, unmatched, _, is_matched, is_unmatched⟩ := ifNextMatches_eq_ok ok
  have alternative (s : Text) : (c.alternative s).replace <:+ c.output := by
    unfold Context.alternative
    split
    · exact List.nil_suffix
    · exact replace_renderWord_suffix rfl s
  intro a ha
  simp only [Slot.alternatives, List.mem_cons, List.not_mem_nil, or_false] at ha
  rcases ha with rfl | rfl
  · rw [is_matched]
    exact alternative _
  · rw [is_unmatched]
    exact alternative _

theorem takesFrom_apply {command : Command} {s : Slot} (ok : command.apply c = .ok s) :
    s.TakesFrom c.output := by
  cases command with
  | stop mark | comma mark =>
    cases ok
    exact Slot.takesFrom_resolved.2 (replace_place_suffix rfl mark)
  | capitalizeNext | lowerNext | upperNext | engineCommand _ | keyCombo _ =>
    cases ok
    exact Slot.takesFrom_of_replace_eq_nil _ rfl
  | retroCase case =>
    cases ok
    exact Slot.takesFrom_resolved.2 (replace_retroCase_suffix case)
  | retroCurrency form =>
    cases ok
    exact Slot.takesFrom_resolved.2 (replace_retroCurrency_suffix form)
  | retroDeleteSpace =>
    cases ok
    exact Slot.takesFrom_resolved.2 replace_deleteSpace_suffix
  | retroInsertSpace =>
    cases ok
    exact Slot.takesFrom_resolved.2 replace_insertSpace_suffix
  | mode name =>
    cases set : c.mode name with
    | ok a =>
      simp only [Command.apply, set, Except.map] at ok
      cases ok
      exact Slot.takesFrom_of_replace_eq_nil _ (replace_mode set)
    | error e => simp [Command.apply, set, Except.map] at ok
  | ifNextMatches args =>
    cases made : c.ifNextMatches args with
    | ok l =>
      simp only [Command.apply, made, Except.map] at ok
      cases ok
      exact takesFrom_ifNextMatches made
    | error e => simp [Command.apply, made, Except.map] at ok
  | glue text =>
    cases ok
    exact Slot.takesFrom_resolved.2 (replace_renderWord_suffix rfl text)
  | carryCapitalize text =>
    cases ok
    exact Slot.takesFrom_resolved.2 (replace_carryCapitalize_suffix text)
  | attach text =>
    cases ok
    exact Slot.takesFrom_resolved.2 (replace_attach_suffix text)

theorem takesFrom_typeText (s : Text) : (c.typeText s).TakesFrom c.output :=
  Slot.takesFrom_resolved.2 (replace_renderWord_suffix rfl s)

theorem takesFrom_resolveAtom (atom : Text) : (c.resolveAtom atom).TakesFrom c.output := by
  unfold resolveAtom resolveMeta
  split
  · split
    · exact takesFrom_typeText _
    · split
      · next ok => exact takesFrom_apply ok
      · exact takesFrom_typeText _
  · exact takesFrom_typeText _

theorem takesFrom_resolveOutline (outline : Text) :
    (c.resolveOutline outline).TakesFrom c.output := by
  unfold resolveOutline
  split
  · exact Slot.takesFrom_resolved.2 (replace_renderWord_suffix rfl _)
  · exact takesFrom_typeText _

end Context

namespace Action

def editAll (as : List Action) (output : Text) : Text := as.foldl (fun s a => a.edit s) output

def RowTakesFrom : List Action → Text → Prop
  | [], _ => True
  | a :: as, output => a.replace <:+ output ∧ RowTakesFrom as (a.edit output)

theorem rowTakesFrom_append {as bs : List Action} {output : Text} :
    RowTakesFrom (as ++ bs) output ↔
      RowTakesFrom as output ∧ RowTakesFrom bs (editAll as output) := by
  induction as generalizing output with
  | nil => exact ⟨fun h => ⟨trivial, h⟩, fun h => h.2⟩
  | cons a as ih =>
    rw [List.cons_append, RowTakesFrom, RowTakesFrom, ih, and_assoc]
    rfl

theorem RowTakesFrom.here {before after : List Action} {a : Action} {output : Text}
    (row : RowTakesFrom (before ++ a :: after) output) : a.replace <:+ editAll before output :=
  (rowTakesFrom_append.1 row).2.1

theorem exists_edit_eq {a : Action} {output : Text} (there : a.replace <:+ output) :
    ∃ front, output = front ++ a.replace ∧ a.edit output = front ++ a.text := by
  obtain ⟨front, rfl⟩ := there
  exact ⟨front, rfl, by rw [edit, Text.dropLast_append_length]⟩

end Action

theorem View.text_applyAll (v : View) (as : List Action) :
    (v.applyAll as).screen.text = Action.editAll as v.screen.text := by
  induction as generalizing v with
  | nil => rfl
  | cons a as ih => exact ih (v.apply a)

namespace Slot

def RowTakesFrom : List Slot → Text → Prop
  | [], _ => True
  | s :: ss, output => s.TakesFrom output ∧ RowTakesFrom ss ((s.action none).edit output)

theorem RowTakesFrom.here {before after : List Slot} {s : Slot} {output : Text}
    (row : RowTakesFrom (before ++ s :: after) output) :
    s.TakesFrom (Action.editAll (before.map fun s => s.action none) output) := by
  induction before generalizing output with
  | nil => exact row.1
  | cons b before ih => exact ih row.2

theorem RowTakesFrom.actionsOf {ss : List Slot} {output : Text} (row : RowTakesFrom ss output)
    (next : Option Text) : Action.RowTakesFrom (Entry.actionsOf next ss) output := by
  induction ss generalizing output with
  | nil => trivial
  | cons s ss ih =>
    cases ss with
    | nil => exact ⟨row.1.action next, trivial⟩
    | cons s' ss => exact ⟨row.1.action none, ih row.2⟩

end Slot

namespace Style
variable (style : Style)

theorem rowTakesFrom_resolve (last : Action) (output : Text) (t : Translation) :
    Slot.RowTakesFrom (style.resolve last output t) output := by
  have atoms_row (last : Action) (output : Text) (atoms : List Text) :
      Slot.RowTakesFrom (style.resolveAtoms last output atoms) output := by
    induction atoms generalizing last output with
    | nil => trivial
    | cons atom rest ih =>
      exact ⟨(Context.takesFrom_resolveAtom (c := ⟨style, last, output⟩) atom).settle _, ih _ _⟩
  unfold resolve
  split
  · exact ⟨Context.takesFrom_resolveOutline (c := ⟨style, last, output⟩) _, trivial⟩
  · split
    · exact ⟨Slot.takesFrom_of_replace_eq_nil output rfl, trivial⟩
    · exact atoms_row last output _

theorem isPending_of_resolveAtoms {last : Action} {output : Text} {atoms : List Text}
    {before after : List Slot} {s : Slot}
    (slots : style.resolveAtoms last output atoms = before ++ s :: after) :
    ∀ b ∈ before, b.isPending = false := by
  induction atoms generalizing last output before with
  | nil => simp [resolveAtoms] at slots
  | cons atom rest ih =>
    cases before with
    | nil => simp
    | cons b before =>
      cases rest with
      | nil => simp [resolveAtoms] at slots
      | cons next rest =>
        rw [resolveAtoms_cons_cons, List.cons_append] at slots
        obtain ⟨rfl, others⟩ := List.cons.inj slots
        exact List.forall_mem_cons.2 ⟨rfl, ih others⟩

theorem isPending_of_resolve {last : Action} {output : Text} {t : Translation}
    {before after : List Slot} {s : Slot}
    (slots : style.resolve last output t = before ++ s :: after) :
    ∀ b ∈ before, b.isPending = false := by
  have single {x : Slot} (slots : [x] = before ++ s :: after) :
      ∀ b ∈ before, b.isPending = false := by
    cases before with
    | nil => simp
    | cons b before => simp at slots
  unfold resolve at slots
  split at slots
  · exact single slots
  · split at slots
    · exact single slots
    · exact style.isPending_of_resolveAtoms slots

end Style

namespace Base

/-- An open lookahead takes back what is there, whatever decides it. -/
def TailTakesFrom (b : Base) : Prop :=
  ∀ l, b.tail = some l → (Slot.pending l).TakesFrom b.view.screen.text

theorem tailTakesFrom_extend {v : View} {slots : List Slot}
    (row : Slot.RowTakesFrom slots v.screen.text) : (extend v slots).TailTakesFrom := by
  fun_induction extend v slots with
  | case1 v => intro l h; cases h
  | case2 v l =>
    intro l' h
    cases h
    exact row.1
  | case3 v s ss alone ih => exact ih row.2

theorem tailTakesFrom_foldl_add {b : Base} (h : b.TailTakesFrom) (style : Style)
    (ts : List Translation) : (ts.foldl (add style) b).TailTakesFrom := by
  induction ts generalizing b with
  | nil => exact h
  | cons t ts ih => exact ih (tailTakesFrom_extend (style.rowTakesFrom_resolve _ _ t))

theorem rowTakesFrom_actionsOf (style : Style) (b : Base) (ts : List Translation)
    (next : Option Text) :
    let es := b.entriesFor style ts
    Action.RowTakesFrom (History.actionsOf next es)
      (b.settle (History.following next es)).screen.text := by
  induction ts generalizing b with
  | nil => trivial
  | cons t ts ih =>
    let v := b.settle (some t.firstLiteral)
    let e := b.entryFor style t
    let later := History.following next ((b.absorb e).entriesFor style ts)
    have here : Action.RowTakesFrom (e.actions later) v.screen.text :=
      (style.rowTakesFrom_resolve v.last v.screen.text t).actionsOf later
    have after : Action.editAll (e.actions later) v.screen.text =
        ((b.absorb e).settle later).screen.text := by
      rw [settle_absorb, View.text_applyAll]
      rfl
    refine Action.rowTakesFrom_append.2 ⟨here, ?_⟩
    change Action.RowTakesFrom _ (Action.editAll (e.actions later) v.screen.text)
    rw [after]
    exact ih (b.absorb e)

end Base

namespace Formatter

/-- The actions that the base is followed by when `next` comes after the history. -/
def actionsAfterBase (f : Formatter) (next : Option Text) : List Action :=
  let following := History.following next f.history.entries
  (f.base.tail.map fun l => l.decide following).toList ++ History.actionsOf next f.history.entries

theorem view_eq_applyAll (f : Formatter) (next : Option Text) :
    f.view next = f.base.view.applyAll (f.actionsAfterBase next) := by
  rw [view, actionsAfterBase, View.applyAll_append, Base.settle]
  cases f.base.tail <;> rfl

theorem Holds.rowTakesFrom {start : Action} {style : Style} {f : Formatter} {ts : List Translation}
    (h : Holds (Base.ofStart start) style f ts) (next : Option Text) :
    Action.RowTakesFrom (f.actionsAfterBase next) f.base.view.screen.text := by
  obtain ⟨gone, entries, base⟩ := h.split
  have gone_eq : gone = (Base.ofStart start).entriesFor style (ts.take gone.length) := by
    rw [← Base.take_entriesFor, entries, List.take_left]
  -- the base is what the forgotten translations make of the start, an open lookahead at its end
  have tail : f.base.TailTakesFrom := by
    rw [base, gone_eq, Base.foldl_absorb_entriesFor]
    exact Base.tailTakesFrom_foldl_add (fun l none => by cases none) style _
  have held := Base.eq_entriesFor_of_append style entries
  rw [← base] at held
  have row := f.base.rowTakesFrom_actionsOf style (f.history.entries.map Entry.translation) next
  rw [← held] at row
  refine Action.rowTakesFrom_append.2 ⟨?_, ?_⟩
  · cases open_end : f.base.tail with
    | none => trivial
    | some l => exact ⟨(tail l open_end).action _, trivial⟩
  · have settled : (f.base.settle (History.following next f.history.entries)).screen.text =
        Action.editAll
          (f.base.tail.map fun l => l.decide (History.following next f.history.entries)).toList
          f.base.view.screen.text := by
      rw [Base.settle]
      cases f.base.tail <;> rfl
    rw [← settled]
    exact row

/-- Every slot that a translation is resolved to takes back what the output ends with after the
slots before it, which are all decided; so does an open slot, whatever decides it. So in every run
that follows the history, each action that the screen is made of finds the text that it names, and
takes back this and no more. -/
theorem replace_is_taken_back :
    (∀ (style : Style) (last : Action) (output : Text) (t : Translation)
        (before after : List Slot) (s : Slot), style.resolve last output t = before ++ s :: after →
      (∀ b ∈ before, b.isPending = false) ∧
        ∀ a ∈ s.alternatives,
          a.replace <:+ Action.editAll (before.map fun b => b.action none) output) ∧
    ∀ (settings : FormatterSettings) (o : Orthography) (cs : List ServiceCommand),
      (new settings o).followsHistory cs = true → ∀ (next : Option Text),
        let f := (new settings o).run cs
        f.view next = f.base.view.applyAll (f.actionsAfterBase next) ∧
          ∀ before a after, f.actionsAfterBase next = before ++ a :: after →
            let text := (f.base.view.applyAll before).screen.text
            ∃ front, text = front ++ a.replace ∧ a.edit text = front ++ a.text := by
  refine ⟨fun style last output t before after s slots => ?_, fun settings o cs follows next => ?_⟩
  · have row := style.rowTakesFrom_resolve last output t
    rw [slots] at row
    exact ⟨style.isPending_of_resolve slots, row.here⟩
  · intro f
    refine ⟨f.view_eq_applyAll next, ?_⟩
    intro before a after actions text
    have row := ((holds_new settings o).run follows).rowTakesFrom next
    change Action.RowTakesFrom (f.actionsAfterBase next) _ at row
    rw [actions] at row
    have there : text = Action.editAll before f.base.view.screen.text := View.text_applyAll _ _
    refine Action.exists_edit_eq ?_
    rw [there]
    exact row.here

def recapitalized : Translation := .ofEnglish "\x7b*-|\x7d\x7b^s\x7d"

def driveStyle : Style := ⟨.after, .empty⟩

def driveLast : Action := { text := "drive ".toList, word := "drive".toList }

def driveSettings : FormatterSettings := { spacePlacement := .after, undoLevels := 1 }

def driveCommands : List ServiceCommand :=
  [.format { new := [.ofEnglish "drive", recapitalized] }]

theorem replace_is_taken_back_drive :
    (∃ b s, driveStyle.resolve driveLast "drive ".toList recapitalized = [b, s] ∧
      b.isPending = false ∧
        (s.action none).replace <:+ (b.action none).edit "drive ".toList) ∧
    (new driveSettings .empty).followsHistory driveCommands = true ∧
      let f := (new driveSettings .empty).run driveCommands
      ∃ b a, f.actionsAfterBase none = [b, a] ∧
        ∃ front, b.edit f.base.view.screen.text = front ++ a.replace ∧
          a.edit (b.edit f.base.view.screen.text) = front ++ a.text := by
  have two_slots : (driveStyle.resolve driveLast "drive ".toList recapitalized).length = 2 := by
    decide +kernel
  have follows : (new driveSettings .empty).followsHistory driveCommands = true := by
    decide +kernel
  have two_actions :
      (((new driveSettings .empty).run driveCommands).actionsAfterBase none).length = 2 := by
    decide +kernel
  obtain ⟨b, s, slots⟩ := List.length_eq_two.1 two_slots
  obtain ⟨b', a, actions⟩ := List.length_eq_two.1 two_actions
  obtain ⟨decided, taken⟩ := replace_is_taken_back.1 _ _ _ _ [b] [] s slots
  obtain ⟨_, exact_edit⟩ := replace_is_taken_back.2 _ _ _ follows none
  exact ⟨⟨b, s, slots, decided b (List.mem_singleton_self b),
      taken _ (s.action_mem_alternatives none)⟩,
    follows, b', a, actions, exact_edit [b'] a [] actions⟩

end Formatter
end Stenotype
