import Stenotype.Proofs.ModeRuns

/-!
# Texts that lost their front

A base that grows too long loses the front of its text. A suffix that was resolved before that may
ask for more than is left; it takes back what there is. So beside a formatter that loses nothing,
one that types the same shows an end of the text, and its last action differs in what it takes back
at most.
-/

set_option autoImplicit false

namespace Stenotype

namespace Text

theorem dropLast_suffix {s t : Text} (h : s <:+ t) (n : Nat) : dropLast n s <:+ dropLast n t := by
  obtain ⟨front, rfl⟩ := h
  by_cases le : n ≤ s.length
  · rw [dropLast_append_right front le]
    exact List.suffix_append _ _
  · have nothing : dropLast n s = [] := by
      rw [dropLast, Nat.sub_eq_zero_of_le (by omega), List.take_zero]
    rw [nothing]
    exact List.nil_suffix

theorem dropLast_length_takeLast {s t : Text} (short : s.length ≤ t.length) (n : Nat) :
    dropLast (takeLast n t).length s = dropLast n s := by
  rw [dropLast, dropLast, takeLast, List.length_drop]
  congr 1
  omega

end Text

theorem Action.length_edit (a : Action) (s : Text) :
    (a.edit s).length = s.length - a.replace.length + a.text.length := by
  rw [edit, List.length_append, Text.dropLast, List.length_take]
  omega

namespace Context
variable {c d : Context} {p : Patch}

theorem replace_put (c : Context) (p : Patch) :
    (c.put p).replace =
      c.wordTail p.retyped ++ if c.isAttached p.action then c.pendingSeparator else [] := by
  have attached_eq : c.isAttached { p.action with replace := c.wordTail p.retyped } =
      c.isAttached p.action := rfl
  cases placement : c.placement with
  | before =>
    rw [pendingSeparator_before placement, ite_self, List.append_nil, put, place, placement]
  | after =>
    simp only [put, place, placement, attached_eq]
    split
    · rfl
    · exact (List.append_nil _).symm

theorem put_eq (placement : d.placement = c.placement)
    (next : d.last.nextAttach = c.last.nextAttach) (p : Patch) :
    d.put p = { c.put p with replace := (d.put p).replace } := by
  cases before : c.placement <;> simp [put, place, isAttached, placement, next, before]

theorem ordinary_put (fits : p.Fits c.last) : (c.put p).IsOrdinary := by
  obtain ⟨upper, upperCarry, case, spaceChar⟩ := fits.ordinary
  unfold put place
  split <;> exact ⟨upper, upperCarry, case, spaceChar⟩

theorem edit_put (fits : p.Fits c.last) {s t : Text} (output : c.output = t ++ c.pendingSeparator)
    (short : s.length ≤ t.length) :
    (c.put p).edit (s ++ c.pendingSeparator) =
      (if c.isAttached p.action then Text.dropLast p.retyped s else s ++ c.pendingSeparator) ++
        (c.put p).text := by
  rw [Action.edit, replace_put, wordTail_eq output]
  split
  · rw [List.length_append, Text.dropLast_add_append, Text.dropLast_length_takeLast short]
  · next apart =>
    have none_retyped : p.retyped = 0 := by
      by_contra some
      exact apart (by rw [isAttached, fits.attached some, Bool.true_or])
    have nothing : (Text.takeLast 0 t ++ ([] : Text)).length = 0 := by
      rw [List.append_nil, Text.takeLast, Nat.sub_zero, List.drop_length, List.length_nil]
    rw [none_retyped, nothing, Text.dropLast_zero]

/-- Made for what `d` has left, the patch leaves an end of what it makes of the output of `c`, on
whatever is left by then. -/
theorem edit_put_suffix (fits : p.Fits c.last) (fits' : p.Fits d.last)
    (placement : d.placement = c.placement) (next : d.last.nextAttach = c.last.nextAttach)
    (pending : d.pendingSeparator = c.pendingSeparator) {r s t : Text}
    (output : c.output = t ++ c.pendingSeparator) (output' : d.output = r ++ c.pendingSeparator)
    (ends : s <:+ t) (short : s.length ≤ r.length) :
    (d.put p).edit (s ++ c.pendingSeparator) <:+ (c.put p).edit c.output := by
  have edit := edit_put fits output (Nat.le_refl _)
  have edit' := edit_put fits' (output'.trans (congrArg (r ++ ·) pending.symm)) short
  have attached : d.isAttached p.action = c.isAttached p.action := by
    rw [isAttached, isAttached, next]
  have text : (d.put p).text = (c.put p).text := by rw [put_eq placement next]
  rw [pending, attached, text] at edit'
  rw [output, edit, edit']
  refine List.suffix_append_self_iff.2 ?_
  split
  · exact Text.dropLast_suffix ends _
  · exact List.suffix_append_self_iff.2 ends

end Context

namespace View
variable {style : Style} {u v w : View}

def pending (style : Style) (v : View) : Text :=
  Context.pendingSeparator ⟨style, v.last, v.screen.text⟩

theorem IsSpaced.pending_eq (h : v.IsSpaced style.placement) (space : v.last.spaceChar = [' ']) :
    v.pending style =
      if style.placement = .after ∧ v.last.nextAttach = false ∧ Text.endsWith [' '] v.last.text then
        [' ']
      else [] := by
  rw [pending, Context.pendingSeparator]
  rcases h with before | next | none | ⟨_, output⟩
  · simp [before]
  · simp [next]
  · simp [none, space, Text.endsWith]
  · have ends : Text.endsWith [' '] v.screen.text = true := List.isSuffixOf_iff_suffix.2 output
    simp only [space, ends, and_true]

/-- `w` shows an end of what `v` shows, after the same actions but for what they took back. -/
structure ShowsEnd (style : Style) (v w : View) : Prop where
  ordinary : v.last.IsOrdinary
  last : w.last = { v.last with replace := w.last.replace }
  text : w.screen.text <:+ v.screen.text
  spaced : v.IsSpaced style.placement
  spaced' : w.IsSpaced style.placement

theorem length_apply_le (a : Action) (short : w.screen.text.length ≤ u.screen.text.length) :
    (w.apply a).screen.text.length ≤ (u.apply a).screen.text.length := by
  change (a.edit w.screen.text).length ≤ (a.edit u.screen.text).length
  rw [a.length_edit, a.length_edit]
  omega

theorem length_applyAll_le (as : List Action)
    (short : w.screen.text.length ≤ u.screen.text.length) :
    (w.applyAll as).screen.text.length ≤ (u.applyAll as).screen.text.length := by
  induction as generalizing u w with
  | nil => exact short
  | cons a as ih => exact ih (length_apply_le a short)

namespace ShowsEnd

theorem refl (ordinary : v.last.IsOrdinary) (spaced : v.IsSpaced style.placement) :
    ShowsEnd style v v :=
  ⟨ordinary, rfl, List.suffix_rfl, spaced, spaced⟩

theorem ordinary' (h : ShowsEnd style v w) : w.last.IsOrdinary := by
  rw [h.last]
  exact ⟨h.ordinary.upper, h.ordinary.upperCarry, h.ordinary.case, h.ordinary.spaceChar⟩

theorem resembles (h : ShowsEnd style v w) :
    Context.Resembles ⟨style, v.last, v.screen.text⟩ ⟨style, w.last, w.screen.text⟩ := by
  refine ⟨rfl, ?_⟩
  change w.last = { v.last with text := w.last.text, replace := w.last.replace }
  rw [show w.last.text = v.last.text by rw [h.last]]
  exact h.last

theorem pending_eq (h : ShowsEnd style v w) : w.pending style = v.pending style := by
  rw [h.spaced.pending_eq h.ordinary.spaceChar, h.spaced'.pending_eq h.ordinary'.spaceChar, h.last]

theorem front (h : ShowsEnd style v w) :
    ∃ s t, s <:+ t ∧ w.screen.text = s ++ v.pending style ∧
      v.screen.text = t ++ v.pending style := by
  obtain ⟨s, text'⟩ := Context.pendingSeparator_suffix ⟨style, w.last, w.screen.text⟩
  obtain ⟨t, text⟩ := Context.pendingSeparator_suffix ⟨style, v.last, v.screen.text⟩
  change s ++ w.pending style = w.screen.text at text'
  change t ++ v.pending style = v.screen.text at text
  rw [h.pending_eq] at text'
  have ends := h.text
  rw [← text', ← text] at ends
  exact ⟨s, t, List.suffix_append_self_iff.1 ends, text'.symm, text.symm⟩

theorem apply_typing (h : ShowsEnd style v w) (resolved : ShowsEnd style v u)
    (short : w.screen.text.length ≤ u.screen.text.length) (k : Typing) :
    ShowsEnd style (v.type style k) (w.apply (k.action ⟨style, u.last, u.screen.text⟩)) := by
  let cv : Context := ⟨style, v.last, v.screen.text⟩
  let cu : Context := ⟨style, u.last, u.screen.text⟩
  obtain ⟨p, puts, -⟩ := k.puts (c := cv) h.ordinary
  -- one patch serves both, as it does not look at the output
  have made : k.action cv = cv.put p := puts.eq_put cv ⟨rfl, rfl⟩
  have made' : k.action cu = cu.put p := puts.eq_put cu resolved.resembles
  have next : u.last.nextAttach = v.last.nextAttach := by rw [resolved.last]
  have word : u.last.word = v.last.word := by rw [resolved.last]
  have fits' : p.Fits cu.last :=
    ⟨puts.fits.ordinary, word ▸ puts.fits.retyped, puts.fits.attached, word ▸ puts.fits.word⟩
  exact
    { ordinary := by
        change (k.action cv).IsOrdinary
        rw [made]
        exact Context.ordinary_put puts.fits
      last := by
        change k.action cu = { k.action cv with replace := (k.action cu).replace }
        rw [made, made']
        exact Context.put_eq (c := cv) (d := cu) rfl next p
      text := by
        obtain ⟨s, t, ends, text', text⟩ := h.front
        obtain ⟨r, _, _, textu, _⟩ := resolved.front
        have fewer : s.length ≤ r.length := by
          rw [text', textu, List.length_append, List.length_append] at short
          omega
        change (k.action cu).edit w.screen.text <:+ (k.action cv).edit v.screen.text
        rw [made, made', text']
        exact Context.edit_put_suffix puts.fits fits' rfl next resolved.pending_eq text textu ends
          fewer
      spaced := isSpaced_apply_typing style h.ordinary k v
      spaced' := isSpaced_apply_typing style resolved.ordinary' k w }

theorem apply_silentCopy (h : ShowsEnd style v w) (resolved : ShowsEnd style v u) :
    ShowsEnd style (v.apply v.last.silentCopy) (w.apply u.last.silentCopy) where
  ordinary := ⟨h.ordinary.upper, h.ordinary.upperCarry, h.ordinary.case, h.ordinary.spaceChar⟩
  last := by
    change u.last.silentCopy = v.last.silentCopy
    rw [resolved.last]
    rfl
  text := by
    change Text.dropLast 0 w.screen.text ++ [] <:+ Text.dropLast 0 v.screen.text ++ []
    rw [Text.dropLast_zero, Text.dropLast_zero, List.append_nil, List.append_nil]
    exact h.text
  spaced := isSpaced_apply_of_text_nil v rfl
  spaced' := isSpaced_apply_of_text_nil w rfl

theorem applyAll_actionsOf (h : ShowsEnd style v w) (resolved : ShowsEnd style v u)
    (short : w.screen.text.length ≤ u.screen.text.length) (ks : List Typing) :
    ShowsEnd style (v.applyAll (v.actionsOf style ks)) (w.applyAll (u.actionsOf style ks)) := by
  induction ks generalizing u v w with
  | nil => exact h
  | cons k ks ih =>
    have there := resolved.apply_typing resolved (Nat.le_refl _) k
    exact ih (h.apply_typing resolved short k) there (length_apply_le _ short)

theorem applyAll_actionsFor (h : ShowsEnd style v w) (resolved : ShowsEnd style v u)
    (short : w.screen.text.length ≤ u.screen.text.length) (t : Translation) :
    ShowsEnd style (v.applyAll (v.actionsFor style t)) (w.applyAll (u.actionsFor style t)) := by
  unfold actionsFor
  cases t.typings with
  | nil => exact h.apply_silentCopy resolved
  | cons k ks => exact h.applyAll_actionsOf resolved short (k :: ks)

theorem dropFront_surplus {b : Base} (h : ShowsEnd style v b.view) :
    ShowsEnd style v (b.dropFront b.surplus).view := by
  by_cases long : Base.limit < b.view.screen.text.length
  · have surplus : b.surplus = b.view.screen.text.length - Base.keep := if_pos long
    have some_left : b.surplus < b.view.screen.text.length := by
      rw [surplus]
      simp only [Base.limit, Base.keep] at *
      omega
    exact ⟨h.ordinary, h.last, (List.drop_suffix _ _).trans h.text, h.spaced,
      h.spaced'.dropFront some_left⟩
  · rw [Base.surplus_eq_zero (Nat.not_lt.1 long)]
    simpa [Base.dropFront] using h

end ShowsEnd
end View

def View.add (style : Style) (v : View) (t : Translation) : View :=
  v.applyAll (v.actionsFor style t)

theorem Base.foldl_add_of_onlyTypes (style : Style) {b : Base} {ts : List Translation}
    (decided : b.tail = none) (only : ∀ t ∈ ts, t.onlyTypes = true) :
    ts.foldl (add style) b = ⟨ts.foldl (View.add style) b.view, none⟩ := by
  induction ts generalizing b with
  | nil =>
    cases b
    cases decided
    rfl
  | cons t ts ih =>
    rw [List.foldl_cons, add_of_onlyTypes style decided (only t (List.mem_cons_self ..)),
      ih rfl fun u mem => only u (List.mem_cons_of_mem t mem)]
    rfl

/-- The entries of translations after `v`, of which `w` is left: each was resolved when no less was
left. -/
inductive EntriesOf (style : Style) : View → View → List Entry → List Translation → Prop
  | nil (v w : View) : EntriesOf style v w [] []
  | cons {u v w : View} {e : Entry} {t : Translation} {es : List Entry} {ts : List Translation}
      (resolved : v.ShowsEnd style u) (short : w.screen.text.length ≤ u.screen.text.length)
      (slots : e.slots = (u.actionsFor style t).map Slot.resolved)
      (rest : EntriesOf style (v.add style t) (w.applyAll (u.actionsFor style t)) es ts) :
      EntriesOf style v w (e :: es) (t :: ts)

namespace EntriesOf
variable {style : Style} {v w w' : View} {b : Base} {es : List Entry} {ts : List Translation}

theorem shorten (h : EntriesOf style v w es ts)
    (short : w'.screen.text.length ≤ w.screen.text.length) : EntriesOf style v w' es ts := by
  induction h generalizing w' with
  | nil => exact .nil _ _
  | cons resolved short' slots _ ih =>
    exact .cons resolved (short.trans short') slots (ih (View.length_applyAll_le _ short))

theorem foldl_absorb (h : EntriesOf style v w es ts) (view : b.view = w) (decided : b.tail = none)
    (ends : v.ShowsEnd style w) :
    (es.foldl Base.absorb b).tail = none ∧
      (ts.foldl (View.add style) v).ShowsEnd style (es.foldl Base.absorb b).view := by
  induction h generalizing b with
  | nil => exact ⟨decided, view ▸ ends⟩
  | cons resolved short slots _ ih =>
    have absorbed := Base.absorb_of_resolved decided slots
    rw [view] at absorbed
    refine ih ?_ ?_ (ends.applyAll_actionsFor resolved short _) <;> rw [absorbed]

theorem concat (h : EntriesOf style v w es ts) (view : b.view = w) (decided : b.tail = none)
    (ends : v.ShowsEnd style w) {e : Entry} {t : Translation}
    (slots : e.slots = ((es.foldl Base.absorb b).view.actionsFor style t).map Slot.resolved) :
    EntriesOf style v w (es ++ [e]) (ts ++ [t]) := by
  induction h generalizing b with
  | nil =>
    subst view
    exact .cons ends (Nat.le_refl _) slots (.nil _ _)
  | cons resolved short slots₀ _ ih =>
    have absorbed := Base.absorb_of_resolved decided slots₀
    rw [view] at absorbed
    refine .cons resolved short slots₀
      (ih ?_ ?_ (ends.applyAll_actionsFor resolved short _) slots) <;> rw [absorbed]

theorem freeze {e : Entry} (h : EntriesOf style v b.view (e :: es) ts) (decided : b.tail = none)
    (ends : v.ShowsEnd style b.view) :
    let b' := (b.absorb e).dropFront (b.absorb e).surplus
    b'.tail = none ∧ ∃ t ts', ts = t :: ts' ∧ (v.add style t).ShowsEnd style b'.view ∧
      EntriesOf style (v.add style t) b'.view es ts' := by
  cases h with
  | @cons u _ _ _ t _ ts' resolved short slots rest =>
    have absorbed := Base.absorb_of_resolved decided slots
    have moved : (v.add style t).ShowsEnd style (b.absorb e).view := by
      rw [absorbed]
      exact ends.applyAll_actionsFor resolved short t
    rw [← show (b.absorb e).view = b.view.applyAll _ by rw [absorbed]] at rest
    refine ⟨?_, t, ts', rfl, moved.dropFront_surplus, rest.shorten ?_⟩
    · change (b.absorb e).tail = none
      rw [absorbed]
    · exact (List.drop_suffix _ _).length_le

end EntriesOf

namespace Formatter

/-- `f` has typed `ts` after `start` and shows the end of it. -/
structure HoldsEnd (style : Style) (start : View) (f : Formatter) (ts : List Translation) :
    Prop where
  style_eq : f.style = style
  decided : f.base.tail = none
  split : ∃ gone held, ts = gone ++ held ∧
    (gone.foldl (View.add style) start).ShowsEnd style f.base.view ∧
      EntriesOf style (gone.foldl (View.add style) start) f.base.view f.history.entries held

namespace HoldsEnd
variable {style : Style} {start : View} {f : Formatter} {ts : List Translation}

theorem whole (h : HoldsEnd style start f ts) :
    f.whole.tail = none ∧ (ts.foldl (View.add style) start).ShowsEnd style f.whole.view := by
  obtain ⟨gone, held, rfl, ends, entries⟩ := h.split
  rw [List.foldl_append]
  exact entries.foldl_absorb rfl h.decided ends

theorem view (h : HoldsEnd style start f ts) (next : Option Text) : f.view next = f.whole.view := by
  rw [view_eq, Base.settle_of_decided h.whole.1]

theorem append (h : HoldsEnd style start f ts) {t : Translation} (only : t.onlyTypes = true) :
    HoldsEnd style start (f.append t) (ts ++ [t]) := by
  obtain ⟨gone, held, rfl, ends, entries⟩ := h.split
  let e : Entry := ⟨t.plain, f.resolveNext t⟩
  have slots : e.slots = (f.whole.view.actionsFor style t).map Slot.resolved := by
    rw [← style.resolve_eq_actionsFor _ only, ← h.view (some t.firstLiteral), ← h.style_eq]
    rfl
  have all : EntriesOf style (gone.foldl (View.add style) start) f.base.view
      (f.history.entries ++ [e]) (held ++ [t]) := entries.concat rfl h.decided ends slots
  have style_eq : (f.append t).style = style :=
    (style_of_setup (setup_push f t _)).trans h.style_eq
  rcases f.history.push_cases e with ⟨_, kept⟩ | ⟨first, rest, split, _, left⟩
  · have same : f.append t =
        { f with history := { f.history with entries := f.history.entries ++ [e] } } := by
      simp only [Formatter.append, push, kept, e]
    refine ⟨style_eq, ?_, gone, held ++ [t], List.append_assoc .., ?_, ?_⟩ <;> rw [same]
    · exact h.decided
    · exact ends
    · exact all
  · -- the oldest entry moves into the base, and what is left of that may be less than before
    have base : (f.append t).base =
        (f.base.absorb first).dropFront (f.base.absorb first).surplus := by
      simp only [Formatter.append, push, left, freeze_eq_dropFront, e]
    have entries : (f.append t).history.entries = rest := by
      simp only [Formatter.append, push, left, freeze_eq_dropFront, e]
    rw [split] at all
    obtain ⟨decided, t', held', whole, ends, after⟩ := all.freeze h.decided ends
    rw [← base] at decided ends after
    refine ⟨style_eq, decided, gone ++ [t'], held', ?_, ?_, ?_⟩
    · rw [List.append_assoc, List.append_assoc, whole]
      rfl
    · rw [List.foldl_append]
      exact ends
    · rw [entries, List.foldl_append]
      exact after

theorem foldl_append (h : HoldsEnd style start f ts) {us : List Translation}
    (only : ∀ t ∈ us, t.onlyTypes = true) :
    HoldsEnd style start (us.foldl Formatter.append f) (ts ++ us) := by
  induction us generalizing f ts with
  | nil =>
    rw [List.append_nil]
    exact h
  | cons t us ih =>
    have all := ih (h.append (only t (List.mem_cons_self ..)))
      fun u mem => only u (List.mem_cons_of_mem t mem)
    rw [List.append_assoc] at all
    exact all

end HoldsEnd

/-- However much has been lost, translations that only type show an end of what they type together,
in whatever batches they come; the last action differs in what it takes back at most. -/
theorem run_typing_showsEnd (s : FormatterSettings) (o : Orthography)
    {batches : List (List Translation)} {ts : List Translation} (typed : batches.flatten = ts)
    (only : ∀ t ∈ ts, t.onlyTypes = true) :
    let f := (new s o).run (batches.map ServiceCommand.typing)
    let v := (ts.foldl (Base.add ⟨s.spacePlacement, o⟩) (Base.ofStart (startAction s))).settle none
    f.rendered.text <:+ v.screen.text ∧
      f.lastAction = { v.last with replace := f.lastAction.replace } := by
  intro f v
  let style : Style := ⟨s.spacePlacement, o⟩
  let start : View := (Base.ofStart (startAction s)).view
  have ends : start.ShowsEnd style start := .refl ⟨rfl, rfl, rfl, rfl⟩ (.inr (.inr (.inl rfl)))
  have begun : HoldsEnd style start (new s o) [] := ⟨rfl, rfl, [], [], rfl, ends, .nil _ _⟩
  have all := begun.foldl_append only
  have shown := all.whole.2
  rw [← all.view none, List.nil_append] at shown
  have same : v = ts.foldl (View.add style) start :=
    congrArg (Base.settle · none)
      (Base.foldl_add_of_onlyTypes style (b := Base.ofStart (startAction s)) rfl only)
  have last : f.lastAction = ((ts.foldl append (new s o)).view none).last := by
    rw [← typed]
    exact congrArg View.last ((run_typing_sameWindow (new s o) batches).view none)
  rw [rendered_run_typing, typed, last, same]
  exact ⟨shown.text, shown.last⟩

end Formatter
end Stenotype
