import Stenotype.Proofs.Footing
import Stenotype.Proofs.Held

/-!
# Watching a run

A formatter is watched with a footing for every translation that it could take back to. Nothing
reads the footings but what is proved about them, and nothing is known any more of a base that was
cut back, nor of slots that a translation brought along. Every atom that a run resolves is resolved
in a context that its footing describes.
-/

set_option autoImplicit false

namespace Stenotype

/-- An atom, where it is resolved, and what is known there. -/
structure Moment where
  context : Context
  footing : Footing
  atom : Text

/-- The moments of atoms that follow an action and its output. -/
def Style.moments (style : Style) (σ : Footing) (last : Action) (output : Text) :
    List Text → List Moment
  | [] => []
  | atom :: rest =>
    let c : Context := ⟨style, last, output⟩
    let a := ((c.resolveAtom atom).settle rest.head?).action none
    ⟨c, σ, atom⟩ :: style.moments (σ.atom style.placement atom) a (a.edit output) rest

/-- The slots of atoms are what they are resolved to at their moments. -/
theorem Style.resolveAtoms_eq_moments (style : Style) (σ : Footing) (last : Action) (output : Text)
    (atoms : List Text) :
    style.resolveAtoms last output atoms =
      List.zipWith (fun m next => (m.context.resolveAtom m.atom).settle next)
        (style.moments σ last output atoms) (atoms.tail.map some ++ [none]) := by
  induction atoms generalizing σ last output with
  | nil => rfl
  | cons atom rest ih =>
    rw [resolveAtoms, moments, ih (σ.atom style.placement atom)]
    cases rest <;> rfl

def View.context (v : View) (style : Style) : Context := ⟨style, v.last, v.screen.text⟩

def Slot.isModeless : Slot → Bool
  | resolved a => a.case.isNone && a.spaceChar = [' ']
  | pending l =>
    l.matched.case.isNone && l.matched.spaceChar = [' '] &&
      (l.unmatched.case.isNone && l.unmatched.spaceChar = [' '])

/-- Sets a mode, by an atom or by the slots that it remembers. -/
def Translation.setsMode (t : Translation) : Bool :=
  (t.english.any fun english => (Atom.trimmed english).any Atom.setsMode) ||
    t.formatting.any fun slots => !slots.all Slot.isModeless

theorem Slot.isModeless_action {s : Slot} (modeless : s.isModeless = true) (next : Option Text) :
    (s.action next).case = none ∧ (s.action next).spaceChar = [' '] := by
  cases s with
  | resolved a => simpa [isModeless] using modeless
  | pending l =>
    simp only [isModeless, Bool.and_eq_true, Option.isNone_iff_eq_none, decide_eq_true_eq] at modeless
    rw [Slot.action]
    rcases l.decide_cases next with one | one <;> rw [one]
    · exact modeless.1
    · exact modeless.2

theorem Entry.mem_actionsOf {next : Option Text} {slots : List Slot} {a : Action}
    (h : a ∈ actionsOf next slots) : ∃ s ∈ slots, ∃ n, a = s.action n := by
  fun_induction actionsOf next slots with
  | case1 => cases h
  | case2 s => exact ⟨s, List.mem_singleton_self s, next, List.mem_singleton.1 h⟩
  | case3 s ss _ ih =>
    rcases List.mem_cons.1 h with rfl | h
    · exact ⟨s, List.mem_cons_self .., none, rfl⟩
    · obtain ⟨s', mem, n, rfl⟩ := ih h
      exact ⟨s', List.mem_cons_of_mem _ mem, n, rfl⟩

namespace View

theorem last_applyAll (v : View) (as : List Action) :
    (v.applyAll as).last = v.last ∨ (v.applyAll as).last ∈ as := by
  induction as generalizing v with
  | nil => exact .inl rfl
  | cons a as ih =>
    rcases ih (v.apply a) with same | mem
    · exact .inr (by rw [applyAll, List.foldl_cons, ← applyAll, same]; exact List.mem_cons_self ..)
    · exact .inr (List.mem_cons_of_mem _ mem)

end View

namespace Footing
variable {σ : Footing} {style : Style} {v : View}

theorem Describes.unsure_of_last {c : Context} (case : c.last.case = none)
    (space : c.last.spaceChar = [' ']) : Footing.unsure.Describes c :=
  ⟨case, space, fun firm => absurd firm Bool.false_ne_true, fun quiet =>
    absurd quiet.symm Bool.false_ne_true⟩

theorem Describes.moments (keeps : style.orthography.keepsInk = true) {last : Action} {output : Text}
    (h : σ.Describes ⟨style, last, output⟩) {atoms : List Text}
    (modeless : ∀ a ∈ atoms, Atom.setsMode a = false) :
    ∀ m ∈ style.moments σ last output atoms, m.footing.Describes m.context := by
  induction atoms generalizing σ last output with
  | nil => intro m hm; cases hm
  | cons atom rest ih =>
    intro m hm
    rw [Style.moments] at hm
    rcases List.mem_cons.1 hm with rfl | hm
    · exact h
    · refine ih ?_ (fun a ha => modeless a (List.mem_cons_of_mem _ ha)) m hm
      have here := h.atom keeps (modeless atom (List.mem_cons_self ..))
      cases rest with
      | nil =>
        have settled := here none
        cases slot : Context.resolveAtom ⟨style, last, output⟩ atom <;> rw [slot] at settled <;>
          exact settled
      | cons next rest =>
        rw [List.head?_cons, Slot.settle_some]
        exact here (some (Atom.literal next))

theorem Describes.resolveAtoms (keeps : style.orthography.keepsInk = true)
    (h : σ.Describes (v.context style)) {atoms : List Text}
    (modeless : ∀ a ∈ atoms, Atom.setsMode a = false) (next : Option Text) :
    (atoms.foldl (Footing.atom style.placement) σ).Describes
      ((v.applyAll (Entry.actionsOf next
        (style.resolveAtoms v.last v.screen.text atoms))).context style) := by
  induction atoms generalizing σ v with
  | nil => exact h
  | cons atom rest ih =>
    have here := h.atom keeps (modeless atom (List.mem_cons_self ..))
    cases rest with
    | nil =>
      rw [Style.resolveAtoms_singleton]
      exact here next
    | cons following rest =>
      have later := ih (v := v.apply _) (here (some (Atom.literal following)))
        fun a ha => modeless a (List.mem_cons_of_mem _ ha)
      rw [Style.resolveAtoms_cons_cons]
      exact later

theorem Describes.resolve (keeps : style.orthography.keepsInk = true)
    (h : σ.Describes (v.context style)) {t : Translation} (modeless : t.setsMode = false)
    (next : Option Text) :
    (σ.translation style.placement t).Describes
      ((v.applyAll (Entry.actionsOf next
        (style.resolve v.last v.screen.text t))).context style) := by
  cases english : t.english with
  | none =>
    simp only [Footing.translation, Style.resolve, english]
    exact h.outline t.outline next
  | some english' =>
    cases atoms : Atom.trimmed english' with
    | nil =>
      simp only [Footing.translation, Style.resolve, english, atoms]
      exact h.copyLast
    | cons a as =>
      simp only [Footing.translation, Style.resolve, english, atoms]
      refine h.resolveAtoms keeps (fun b hb => ?_) next
      simp only [Translation.setsMode, english, Option.any_some, atoms, Bool.or_eq_false_iff,
        List.any_eq_false] at modeless
      simpa using modeless.1 b hb

end Footing

/-- A formatter, with what is known of its output after each of the translations that it could take
back to, the newest first. -/
structure Watched where
  formatter : Formatter
  footings : List Footing

namespace Watched

def new (s : FormatterSettings) (o : Orthography) : Watched := ⟨Formatter.new s o, [.start]⟩

def footing (w : Watched) : Footing := w.footings.headD .unsure

def moments (w : Watched) (t : Translation) : List Moment :=
  let v := w.formatter.view (some t.firstLiteral)
  w.formatter.style.moments w.footing v.last v.screen.text ((t.english.map Atom.trimmed).getD [])

def push (w : Watched) (t : Translation) (slots : List Slot) (σ : Footing) : Watched where
  formatter := w.formatter.push t slots
  footings := if w.formatter.hasRoomFor ⟨t.plain, slots⟩ then σ :: w.footings else []

def append (w : Watched) (t : Translation) : Watched :=
  w.push t (w.formatter.resolveNext t) (w.footing.translation w.formatter.style.placement t)

def seed (w : Watched) (t : Translation) : Watched :=
  match t.formatting with
  | some slots => w.push t slots .unsure
  | none => w.append t

def takeBack (w : Watched) (n : Nat) : Watched :=
  ⟨w.formatter.takeBack n, w.footings.drop (min n w.formatter.history.entries.length)⟩

def reset (w : Watched) : Watched := ⟨w.formatter.reset, [.start]⟩

def prepare (w : Watched) (undo : List Translation) (prev : Option Translation) : Watched where
  formatter := w.formatter.prepare undo prev
  footings :=
    if w.formatter.needsReseed undo prev then
      ((prev.toList ++ undo).foldl seed w.reset).footings
    else w.footings

def appending : Watched → List Translation → List Moment
  | _, [] => []
  | w, t :: ts => w.moments t ++ (w.append t).appending ts

def seeding : Watched → List Translation → List Moment
  | _, [] => []
  | w, t :: ts => (if t.formatting.isSome then [] else w.moments t) ++ (w.seed t).seeding ts

def after (w : Watched) : ServiceCommand → Watched
  | .format r =>
    let w := r.new.foldl append ((w.prepare r.undo r.prev).takeBack r.undo.length)
    { w with formatter := { w.formatter with shown := (w.formatter.view none).screen } }
  | .reset => w.reset

def momentsOf (w : Watched) : ServiceCommand → List Moment
  | .format r =>
    (if w.formatter.needsReseed r.undo r.prev then w.reset.seeding (r.prev.toList ++ r.undo)
      else []) ++
      ((w.prepare r.undo r.prev).takeBack r.undo.length).appending r.new
  | .reset => []

/-- Every atom that a run resolves. -/
def momentsOfRun : Watched → List ServiceCommand → List Moment
  | _, [] => []
  | w, c :: cs => w.momentsOf c ++ (w.after c).momentsOfRun cs

end Watched

def ServiceCommand.translations : ServiceCommand → List Translation
  | .format r => r.prev.toList ++ r.undo ++ r.new
  | .reset => []

namespace Watched

theorem formatter_seed (w : Watched) (t : Translation) :
    (w.seed t).formatter = w.formatter.seed t := by
  unfold seed Formatter.seed
  split
  · next slots memo => rw [memo]; rfl
  · next bare => rw [bare]; rfl

theorem formatter_foldl_seed (w : Watched) (ts : List Translation) :
    (ts.foldl seed w).formatter = ts.foldl Formatter.seed w.formatter :=
  (List.foldl_hom formatter fun w t => (formatter_seed w t).symm).symm

theorem formatter_foldl_append (w : Watched) (ts : List Translation) :
    (ts.foldl append w).formatter = ts.foldl Formatter.append w.formatter :=
  (List.foldl_hom formatter fun _ _ => rfl).symm

theorem formatter_after (w : Watched) (c : ServiceCommand) :
    (w.after c).formatter = w.formatter.after c := by
  cases c with
  | reset => rfl
  | format r =>
    simp only [after, formatter_foldl_append]
    rfl

theorem formatter_run (w : Watched) (cs : List ServiceCommand) :
    (cs.foldl after w).formatter = w.formatter.run cs :=
  (List.foldl_hom formatter fun w c => (formatter_after w c).symm).symm

/-- Whatever is taken back, the footings say what is left of the output. -/
structure Tracks (w : Watched) : Prop where
  keeps : w.formatter.style.orthography.keepsInk = true
  describes : ∀ k ≤ w.formatter.history.entries.length, ∀ next,
    ((w.footings.drop k).headD .unsure).Describes
      (((w.formatter.takeBack k).view next).context w.formatter.style)

theorem view_takeBack (f : Formatter) (k : Nat) (next : Option Text) :
    (f.takeBack k).view next =
      ((f.history.entries.take (f.history.entries.length - k)).foldl Base.absorb f.base).settle
        next :=
  Formatter.view_eq _ _

theorem style_push (f : Formatter) (t : Translation) (slots : List Slot) :
    (f.push t slots).style = f.style := by
  have same := Formatter.setup_push f t slots
  simp only [Formatter.setup, Prod.mk.injEq] at same
  rw [Formatter.style, Formatter.style, same.1, same.2.1]

namespace Tracks
variable {w : Watched} {t : Translation}

/-- New slots are tracked if the footing says where they leave the output. An entry that leaves for
them takes its footing along; if the base is cut then, nothing is known any more. -/
theorem push (h : w.Tracks) {slots : List Slot} {σ : Footing}
    (here : ∀ next, σ.Describes
      (((w.formatter.whole.absorb ⟨t.plain, slots⟩).settle next).context w.formatter.style)) :
    (w.push t slots σ).Tracks := by
  obtain ⟨f, fs⟩ := w
  let e : Entry := ⟨t.plain, slots⟩
  let held := f.history.entries ++ [e]
  -- as long as nothing is cut, it does not matter where base and history are divided
  have below : ∀ k ≤ held.length, ∀ next, (((σ :: fs).drop k).headD .unsure).Describes
      ((((held.take (held.length - k)).foldl Base.absorb f.base).settle next).context f.style) := by
    intro k le next
    cases k with
    | zero =>
      rw [Nat.sub_zero, List.take_length, List.foldl_append]
      exact here next
    | succ k =>
      simp only [held, List.length_append, List.length_singleton] at le ⊢
      rw [Nat.add_sub_add_right, List.take_append_of_le_length (Nat.sub_le ..), ← view_takeBack]
      exact h.describes k (by simpa using le) next
  refine ⟨by rw [Watched.push, style_push]; exact h.keeps, fun k le next => ?_⟩
  rw [view_takeBack]
  change _ ≤ (f.push t slots).history.entries.length at le
  change Footing.Describes (((if f.hasRoomFor e then σ :: fs else []).drop k).headD .unsure)
    (View.context (Base.settle (((f.push t slots).history.entries.take
      ((f.push t slots).history.entries.length - k)).foldl Base.absorb (f.push t slots).base) next)
      (f.push t slots).style)
  rw [style_push]
  rcases f.history.push_cases e with ⟨_, kept⟩ | ⟨first, rest, all, full, left⟩
  · have room : f.hasRoomFor e = true := by simp [Formatter.hasRoomFor, kept]
    have pushed : f.push t slots = { f with history := { f.history with entries := held } } := by
      simp only [Formatter.push, e, kept, held]
    rw [pushed] at le ⊢
    rw [room, if_pos rfl]
    exact below k le next
  · have pushed : f.push t slots =
        { f with history := { f.history with entries := rest } }.freeze first := by
      simp only [Formatter.push, e, left]
    have uncut (le : k ≤ rest.length) : (((σ :: fs).drop k).headD .unsure).Describes
        ((((rest.take (rest.length - k)).foldl Base.absorb (f.base.absorb first)).settle
          next).context f.style) := by
      have here := below k (by rw [show held = _ from all, List.length_cons]; omega) next
      rw [show held = _ from all, List.length_cons, Nat.succ_sub le, List.take_succ_cons] at here
      exact here
    by_cases room : f.hasRoomFor e = true
    · have fits : (f.base.absorb first).view.screen.text.length ≤ Base.limit := by
        simpa [Formatter.hasRoomFor, left] using room
      rw [pushed, Formatter.freeze_eq (by exact fits)] at le ⊢
      rw [room, if_pos rfl]
      exact uncut le
    · -- modes are part of the last action, which a cut leaves alone
      rw [pushed, Formatter.freeze_eq_dropFront] at le ⊢
      rw [if_neg room, List.drop_nil]
      have last := Base.last_settle_dropFront (f.base.absorb first) (f.base.absorb first).surplus
        (rest.take (rest.length - k)) next
      exact .unsure_of_last ((congrArg Action.case last).trans (uncut le).case)
        ((congrArg Action.spaceChar last).trans (uncut le).spaceChar)

theorem footing (h : w.Tracks) (next : Option Text) :
    w.footing.Describes ((w.formatter.view next).context w.formatter.style) := by
  have here := h.describes 0 (Nat.zero_le _) next
  rw [Formatter.takeBack_zero, List.drop_zero] at here
  exact here

theorem append (h : w.Tracks) (modeless : t.setsMode = false) : (w.append t).Tracks := by
  refine h.push fun next => ?_
  rw [Base.settle_absorb, ← Formatter.view_eq]
  exact (h.footing (some t.firstLiteral)).resolve h.keeps modeless next

theorem seed (h : w.Tracks) (modeless : t.setsMode = false) : (w.seed t).Tracks := by
  unfold Watched.seed
  split
  · next slots memo =>
    refine h.push fun next => ?_
    have before := h.footing (some t.firstLiteral)
    have all : ∀ s ∈ slots, s.isModeless = true := by
      simpa [Translation.setsMode, memo] using (Bool.or_eq_false_iff.1 modeless).2
    rw [Base.settle_absorb, ← Formatter.view_eq]
    have last : ∀ a : Action, a = (w.formatter.view (some t.firstLiteral)).last ∨
        a ∈ Entry.actionsOf next slots → a.case = none ∧ a.spaceChar = [' '] := by
      rintro a (rfl | mem)
      · exact ⟨before.case, before.spaceChar⟩
      · obtain ⟨s, hs, n, rfl⟩ := Entry.mem_actionsOf mem
        exact Slot.isModeless_action (all s hs) n
    obtain ⟨case, space⟩ := last _ (View.last_applyAll _ _)
    exact .unsure_of_last case space
  · exact h.append modeless

theorem foldl_append (h : w.Tracks) {ts : List Translation}
    (modeless : ∀ t ∈ ts, t.setsMode = false) : (ts.foldl Watched.append w).Tracks :=
  List.foldlRecOn ts _ h fun _ tracks t ht => tracks.append (modeless t ht)

theorem foldl_seed (h : w.Tracks) {ts : List Translation}
    (modeless : ∀ t ∈ ts, t.setsMode = false) : (ts.foldl Watched.seed w).Tracks :=
  List.foldlRecOn ts _ h fun _ tracks t ht => tracks.seed (modeless t ht)

theorem takeBack (h : w.Tracks) (n : Nat) : (w.takeBack n).Tracks := by
  refine ⟨h.keeps, fun k le next => ?_⟩
  have held : (w.formatter.takeBack n).history.entries.length =
      w.formatter.history.entries.length - n := by
    simp [Formatter.takeBack, History.popMany]
  have left : k ≤ w.formatter.history.entries.length - n := held ▸ le
  have here := h.describes (min n w.formatter.history.entries.length + k) (by omega) next
  have same : ((w.formatter.takeBack n).takeBack k).view next =
      (w.formatter.takeBack (min n w.formatter.history.entries.length + k)).view next := by
    rw [view_takeBack, view_takeBack, held]
    change (Base.settle (((w.formatter.history.entries.take _).take _).foldl Base.absorb
      w.formatter.base) next) = _
    rw [List.take_take]
    congr 3
    omega
  change ((((w.footings.drop _).drop k).headD .unsure)).Describes
    (View.context (((w.formatter.takeBack n).takeBack k).view next) w.formatter.style)
  rw [List.drop_drop, same]
  exact here

theorem of_blank {f : Formatter} (keeps : f.orthography.keepsInk = true)
    (empty : f.history.entries = []) (base : f.base = Base.ofStart (Formatter.startAction f.settings)) :
    Tracks ⟨f, [.start]⟩ := by
  refine ⟨keeps, fun k le next => ?_⟩
  have zero : k = 0 := by simpa [empty] using le
  subst zero
  have view : (f.takeBack 0).view next = ⟨Screen.blank, Formatter.startAction f.settings⟩ := by
    rw [view_takeBack, empty, base]
    rfl
  rw [view]
  refine ⟨rfl, rfl, fun _ => ⟨[], ?_, List.nil_suffix, .inl rfl⟩, fun _ => ⟨rfl, rfl⟩⟩
  have none := Context.pendingSeparator_suffix
    (View.context ⟨Screen.blank, Formatter.startAction f.settings⟩ f.style)
  rw [List.suffix_nil.1 none]
  rfl

theorem new (s : FormatterSettings) {o : Orthography} (keeps : o.keepsInk = true) :
    (Watched.new s o).Tracks :=
  of_blank keeps rfl rfl

theorem reset (h : w.Tracks) : w.reset.Tracks := of_blank h.keeps rfl rfl

theorem of_sameWindow {f g : Formatter} {fs : List Footing} (h : Tracks ⟨f, fs⟩)
    (same : Formatter.SameWindow f g) : Tracks ⟨g, fs⟩ where
  keeps := by rw [← same.style]; exact h.keeps
  describes k le next := by
    rw [← (same.takeBack k).view, ← same.style]
    exact h.describes k (by rw [same.history]; exact le) next

theorem prepare (h : w.Tracks) {undo : List Translation} {prev : Option Translation}
    (modeless : ∀ t ∈ prev.toList ++ undo, t.setsMode = false) : (w.prepare undo prev).Tracks := by
  unfold Watched.prepare Formatter.prepare
  split
  · have seeded := h.reset.foldl_seed modeless
    refine of_sameWindow (f := ((prev.toList ++ undo).foldl Watched.seed w.reset).formatter) seeded ?_
    rw [formatter_foldl_seed]
    exact (Formatter.reseed_sameWindow _ _ _).symm
  · exact h

theorem after (h : w.Tracks) {c : ServiceCommand}
    (modeless : ∀ t ∈ c.translations, t.setsMode = false) : (w.after c).Tracks := by
  cases c with
  | reset => exact h.reset
  | format r =>
    simp only [ServiceCommand.translations, List.mem_append] at modeless
    have prepared : (w.prepare r.undo r.prev).Tracks :=
      h.prepare fun t ht => modeless t (.inl (List.mem_append.1 ht))
    have typed := (prepared.takeBack r.undo.length).foldl_append fun t ht => modeless t (.inr ht)
    exact typed.of_sameWindow ⟨rfl, rfl, rfl, rfl⟩

theorem moments (h : w.Tracks) (modeless : t.setsMode = false) :
    ∀ m ∈ w.moments t, m.footing.Describes m.context := by
  refine (h.footing (some t.firstLiteral)).moments h.keeps fun a ha => ?_
  cases english : t.english with
  | none => simp [english] at ha
  | some english' =>
    simp only [english, Option.map_some, Option.getD_some] at ha
    simp only [Translation.setsMode, english, Option.any_some, Bool.or_eq_false_iff,
      List.any_eq_false] at modeless
    simpa using modeless.1 a ha

theorem appending (h : w.Tracks) {ts : List Translation}
    (modeless : ∀ t ∈ ts, t.setsMode = false) :
    ∀ m ∈ w.appending ts, m.footing.Describes m.context := by
  induction ts generalizing w with
  | nil => intro m hm; cases hm
  | cons t ts ih =>
    have here := modeless t (List.mem_cons_self ..)
    intro m hm
    rcases List.mem_append.1 hm with hm | hm
    · exact h.moments here m hm
    · exact ih (h.append here) (fun u hu => modeless u (List.mem_cons_of_mem _ hu)) m hm

theorem seeding (h : w.Tracks) {ts : List Translation} (modeless : ∀ t ∈ ts, t.setsMode = false) :
    ∀ m ∈ w.seeding ts, m.footing.Describes m.context := by
  induction ts generalizing w with
  | nil => intro m hm; cases hm
  | cons t ts ih =>
    have here := modeless t (List.mem_cons_self ..)
    intro m hm
    rcases List.mem_append.1 hm with hm | hm
    · split at hm
      · cases hm
      · exact h.moments here m hm
    · exact ih (h.seed here) (fun u hu => modeless u (List.mem_cons_of_mem _ hu)) m hm

theorem momentsOf (h : w.Tracks) {c : ServiceCommand}
    (modeless : ∀ t ∈ c.translations, t.setsMode = false) :
    ∀ m ∈ w.momentsOf c, m.footing.Describes m.context := by
  cases c with
  | reset => intro m hm; cases hm
  | format r =>
    simp only [ServiceCommand.translations, List.mem_append] at modeless
    have named : ∀ t ∈ r.prev.toList ++ r.undo, t.setsMode = false := fun t ht =>
      modeless t (.inl (List.mem_append.1 ht))
    intro m hm
    rcases List.mem_append.1 hm with hm | hm
    · split at hm
      · exact h.reset.seeding named m hm
      · cases hm
    · exact ((h.prepare named).takeBack r.undo.length).appending
        (fun t ht => modeless t (.inr ht)) m hm

/-- Every atom of a run is resolved where its footing says. -/
theorem momentsOfRun (h : w.Tracks) {cs : List ServiceCommand}
    (modeless : ∀ c ∈ cs, ∀ t ∈ c.translations, t.setsMode = false) :
    ∀ m ∈ w.momentsOfRun cs, m.footing.Describes m.context := by
  induction cs generalizing w with
  | nil => intro m hm; cases hm
  | cons c cs ih =>
    have here := modeless c (List.mem_cons_self ..)
    intro m hm
    rcases List.mem_append.1 hm with hm | hm
    · exact h.momentsOf here m hm
    · exact ih (h.after here) (fun d hd => modeless d (List.mem_cons_of_mem _ hd)) m hm

end Tracks
end Watched
end Stenotype
