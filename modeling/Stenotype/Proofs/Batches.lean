import Mathlib
import Stenotype.Proofs.Edit
import Stenotype.Proofs.PlainWord
import Stenotype.Proofs.Run

/-!
# Words in batches

Plain words are typed in requests of any size. What is received is all that was typed, except that a
base that grows too long while a request is handled is cut back together with the recorded screen,
and with it goes what the request itself was to type. Nothing is lost exactly if no request makes
the base lose more than was sent before it, as when no request is longer than the history.
-/

set_option autoImplicit false

namespace Stenotype

def typedWord (p : SpacePlacement) (t : Translation) : Text := p.spaced (t.english.getD [])

def typedWords (p : SpacePlacement) (ts : List Translation) : Text := ts.flatMap (typedWord p)

def wordEntry (p : SpacePlacement) (t : Translation) : Entry :=
  ⟨t.plain, [.resolved (Action.ofWord p (t.english.getD []))]⟩

theorem typedWords_append (p : SpacePlacement) (ts us : List Translation) :
    typedWords p (ts ++ us) = typedWords p ts ++ typedWords p us :=
  List.flatMap_append

theorem typedWords_singleton (p : SpacePlacement) (t : Translation) :
    typedWords p [t] = typedWord p t :=
  List.flatMap_singleton _ _

namespace Base

/-- A base of `s.1` characters that has lost `s.2` absorbs `n` more. -/
def absorbLength (s : Nat × Nat) (n : Nat) : Nat × Nat :=
  if limit < s.1 + n then (keep, s.2 + (s.1 + n - keep)) else (s.1 + n, s.2)

def lostAfter (ns : List Nat) : Nat := (ns.foldl absorbLength (0, 0)).2

theorem foldl_absorbLength_sum (s : Nat × Nat) (ns : List Nat) :
    (ns.foldl absorbLength s).1 + (ns.foldl absorbLength s).2 = s.1 + s.2 + ns.sum := by
  induction ns generalizing s with
  | nil => simp
  | cons n ns ih =>
    rw [List.foldl_cons, ih, List.sum_cons]
    unfold absorbLength
    split
    · simp only [limit, keep] at *
      omega
    · simp only
      omega

theorem lostAfter_le (ns : List Nat) : lostAfter ns ≤ ns.sum := by
  have total := foldl_absorbLength_sum (0, 0) ns
  unfold lostAfter
  omega

theorem lostAfter_append (ns : List Nat) (n : Nat) :
    lostAfter (ns ++ [n]) =
      if limit < ns.sum - lostAfter ns + n then ns.sum + n - keep else lostAfter ns := by
  have total := foldl_absorbLength_sum (0, 0) ns
  have left : (ns.foldl absorbLength (0, 0)).1 = ns.sum - lostAfter ns := by
    unfold lostAfter
    omega
  rw [← left]
  simp only [lostAfter, List.foldl_append, List.foldl_cons, List.foldl_nil, absorbLength]
  split
  · simp only [limit, keep] at *
    omega
  · rfl

/-- A base that shows `s` and waits for nothing. -/
structure IsWords (b : Base) (s : Text) : Prop where
  tail : b.tail = none
  last : b.view.last.IsNeutral
  screen : b.view.screen = ⟨s, []⟩

namespace IsWords
variable {b : Base} {s : Text} {p : SpacePlacement}

theorem settle_eq (h : b.IsWords s) (next : Option Text) : b.settle next = b.view := by
  rw [settle, h.tail]

theorem absorb (h : b.IsWords s) (t : Translation) :
    (b.absorb (wordEntry p t)).IsWords (s ++ typedWord p t) := by
  have eq : b.absorb (wordEntry p t) = ⟨b.view.apply (Action.ofWord p (t.english.getD [])), none⟩ := by
    rw [Base.absorb, h.settle_eq]
    rfl
  rw [eq]
  refine ⟨rfl, Action.isNeutral_ofWord p _, ?_⟩
  simp [View.apply, Screen.apply, h.screen, Action.edit, Action.ofWord, Text.dropLast,
    Action.effects, typedWord]

theorem foldl_absorb (h : b.IsWords s) (ts : List Translation) :
    ((ts.map (wordEntry p)).foldl Base.absorb b).IsWords (s ++ typedWords p ts) := by
  induction ts generalizing b s with
  | nil => simpa [typedWords] using h
  | cons t ts ih =>
    have rest := ih (h.absorb (p := p) t)
    rw [List.append_assoc] at rest
    exact rest

theorem dropFront (h : b.IsWords s) (n : Nat) : (b.dropFront n).IsWords (s.drop n) :=
  ⟨h.tail, h.last, by simp [Base.dropFront, h.screen, Screen.dropFront]⟩

end IsWords
end Base

def lostWords (p : SpacePlacement) (ts : List Translation) : Nat :=
  Base.lostAfter (ts.map fun t => (typedWord p t).length)

theorem sum_length_typedWord (p : SpacePlacement) (ts : List Translation) :
    (ts.map fun t => (typedWord p t).length).sum = (typedWords p ts).length :=
  List.length_flatMap.symm

theorem lostWords_le (p : SpacePlacement) (ts : List Translation) :
    lostWords p ts ≤ (typedWords p ts).length := by
  rw [← sum_length_typedWord]
  exact Base.lostAfter_le _

def leaving (capacity : Nat) (ts : List Translation) : List Translation :=
  ts.take (ts.length - capacity)

theorem lostWords_take_le (p : SpacePlacement) (ts : List Translation) (n : Nat) :
    lostWords p (ts.take n) ≤ (typedWords p ts).length := by
  have le := lostWords_le p (ts.take n)
  have parts := congrArg (fun us => (typedWords p us).length) (List.take_append_drop n ts)
  simp only [typedWords_append, List.length_append] at parts
  omega

namespace Base.IsWords
variable {p : SpacePlacement} {ts : List Translation} {b : Base}

theorem absorb_lost (h : b.IsWords ((typedWords p ts).drop (lostWords p ts))) (t : Translation) :
    (b.absorb (wordEntry p t)).IsWords ((typedWords p (ts ++ [t])).drop (lostWords p ts)) := by
  have grown := h.absorb (p := p) t
  rwa [← List.drop_append_of_le_length (lostWords_le p ts), ← typedWords_singleton,
    ← typedWords_append] at grown

theorem lostWords_append (h : b.IsWords ((typedWords p ts).drop (lostWords p ts)))
    (t : Translation) :
    lostWords p (ts ++ [t]) = lostWords p ts + (b.absorb (wordEntry p t)).surplus := by
  have le := lostWords_le p ts
  have len : (b.absorb (wordEntry p t)).view.screen.text.length =
      (typedWords p ts).length - lostWords p ts + (typedWord p t).length := by
    rw [(h.absorb_lost t).screen, typedWords_append, typedWords_singleton, List.length_drop,
      List.length_append]
    omega
  have next := Base.lostAfter_append (ts.map fun t => (typedWord p t).length) (typedWord p t).length
  rw [sum_length_typedWord] at next
  change Base.lostAfter ((ts ++ [t]).map _) = _
  rw [List.map_append, List.map_singleton, next, Base.surplus, len]
  change (if _ < _ - lostWords p ts + _ then _ else lostWords p ts) = _
  split
  · simp only [Base.limit, Base.keep] at *
    omega
  · rfl

theorem freeze (h : b.IsWords ((typedWords p ts).drop (lostWords p ts))) (t : Translation) :
    ((b.absorb (wordEntry p t)).dropFront (b.absorb (wordEntry p t)).surplus).IsWords
      ((typedWords p (ts ++ [t])).drop (lostWords p (ts ++ [t]))) := by
  rw [h.lostWords_append t, ← List.drop_drop]
  exact (h.absorb_lost t).dropFront _

end Base.IsWords

namespace Formatter

/-- `f` has typed `gone` and `held`, of which `gone` has left the history, since it recorded the
screen of `sent`; its base has lost the same from both. -/
structure HasTyped (p : SpacePlacement) (f : Formatter) (gone held sent : List Translation) :
    Prop where
  placement : f.settings.spacePlacement = p
  entries : f.history.entries = held.map (wordEntry p)
  base : f.base.IsWords ((typedWords p gone).drop (lostWords p gone))
  shown : f.shown = ⟨(typedWords p sent).drop (lostWords p gone), []⟩
  fits : held.length ≤ f.history.capacity
  full : gone = [] ∨ held.length = f.history.capacity

namespace HasTyped
variable {p : SpacePlacement} {f : Formatter} {gone held sent : List Translation}

theorem whole (h : HasTyped p f gone held sent) :
    f.whole.IsWords ((typedWords p (gone ++ held)).drop (lostWords p gone)) := by
  have all := h.base.foldl_absorb (p := p) held
  rwa [← List.drop_append_of_le_length (lostWords_le p gone), ← typedWords_append, ← h.entries] at all

theorem screen (h : HasTyped p f gone held sent) :
    (f.view none).screen = ⟨(typedWords p (gone ++ held)).drop (lostWords p gone), []⟩ := by
  rw [view_eq, h.whole.settle_eq, h.whole.screen]

theorem gone_eq (h : HasTyped p f gone held sent) :
    gone = leaving f.history.capacity (gone ++ held) := by
  have fits := h.fits
  rw [leaving, List.length_append]
  rcases h.full with rfl | full
  · rw [List.length_nil, Nat.zero_add, Nat.sub_eq_zero_of_le fits, List.take_zero]
  · rw [full, Nat.add_sub_cancel, List.take_left]

theorem resolveNext_eq (h : HasTyped p f gone held sent) {t : Translation} (word : t.IsPlainWord) :
    (⟨t.plain, f.resolveNext t⟩ : Entry) = wordEntry p t := by
  obtain ⟨w, english, ne, plain⟩ := word
  have quiet : (f.view (some t.firstLiteral)).last.IsNeutral := by
    rw [view_eq, h.whole.settle_eq]
    exact h.whole.last
  have slots := f.style.resolve_plainWord quiet (f.view (some t.firstLiteral)).screen.text english ne
    plain
  rw [resolveNext, slots, wordEntry, english, Option.getD_some]
  rw [show f.style.placement = p from h.placement]

theorem append (h : HasTyped p f gone held sent) {t : Translation} (word : t.IsPlainWord) :
    ∃ gone' held', gone' ++ held' = gone ++ held ++ [t] ∧
      HasTyped p (f.append t) gone' held' sent := by
  have entry := h.resolveNext_eq word
  rw [Formatter.append, push, entry]
  rcases f.history.push_cases (wordEntry p t) with ⟨room, kept⟩ | ⟨first, rest, all, full, left⟩
  · refine ⟨gone, held ++ [t], by rw [List.append_assoc], ?_⟩
    rw [h.entries, List.length_map] at room
    rw [kept]
    refine ⟨h.placement, ?_, h.base, h.shown, ?_, .inl ?_⟩
    · rw [h.entries, List.map_append, List.map_singleton]
    · rw [List.length_append, List.length_singleton]
      exact room
    · exact h.full.resolve_right (Nat.ne_of_lt room)
  · -- the oldest word leaves, and the base is cut back by its surplus
    have fits := h.fits
    rw [h.entries, List.length_map] at full
    obtain ⟨old, held', split⟩ := List.exists_cons_of_ne_nil (List.concat_ne_nil t held)
    have len := congrArg List.length split
    rw [List.length_append, List.length_singleton, List.length_cons] at len
    rw [h.entries, ← List.map_singleton, ← List.map_append, split, List.map_cons] at all
    obtain ⟨rfl, rfl⟩ := List.cons.inj all
    refine ⟨gone ++ [old], held', by rw [List.append_assoc, List.append_assoc, split]; rfl, ?_⟩
    rw [left]
    simp only [freeze_eq_dropFront]
    have filled : held'.length = f.history.capacity := by omega
    refine ⟨h.placement, rfl, h.base.freeze old, ?_, Nat.le_of_eq filled, .inr filled⟩
    rw [h.base.lostWords_append old, ← List.drop_drop, h.shown]
    simp [Screen.dropFront]

theorem foldl_append (h : HasTyped p f gone held sent) {ts : List Translation}
    (words : ∀ t ∈ ts, t.IsPlainWord) :
    ∃ gone' held', gone' ++ held' = gone ++ held ++ ts ∧
      HasTyped p (ts.foldl Formatter.append f) gone' held' sent := by
  induction ts generalizing f gone held with
  | nil => exact ⟨gone, held, (List.append_nil _).symm, h⟩
  | cons t ts ih =>
    obtain ⟨gone', held', all, typed⟩ := h.append (words t (List.mem_cons_self ..))
    obtain ⟨gone'', held'', all', typed'⟩ := ih typed fun u hu => words u (List.mem_cons_of_mem _ hu)
    exact ⟨gone'', held'', by rw [all', all, List.append_assoc]; rfl, typed'⟩

end HasTyped

theorem hasTyped_new (p : SpacePlacement) (undoLevels : Nat) (o : Orthography) :
    HasTyped p (new { spacePlacement := p, undoLevels := undoLevels } o) [] [] [] :=
  ⟨rfl, rfl, ⟨rfl, Action.isNeutral_start, rfl⟩, rfl, Nat.zero_le _, .inl rfl⟩

/-- What a capture has taken after requests that type the batches, one request each. -/
def captureBatches : Formatter → Capture → List (List Translation) → Capture
  | _, c, [] => c
  | f, c, ts :: rest =>
    let (f, c, _) := f.formatTo Capture.sink c [] ts none
    captureBatches f c rest

/-- What is received of batches after `sent`: of each what the base has not lost by its end. -/
def received (p : SpacePlacement) (capacity : Nat) :
    List Translation → List (List Translation) → Text
  | _, [] => []
  | sent, ts :: rest =>
    (typedWords p ts).drop
        (lostWords p (leaving capacity (sent ++ ts)) - (typedWords p sent).length) ++
      received p capacity (sent ++ ts) rest

/-- By the end of each batch the base has lost no more than was sent before it. -/
def losesOnlySent (p : SpacePlacement) (capacity : Nat) :
    List Translation → List (List Translation) → Bool
  | _, [] => true
  | sent, ts :: rest =>
    lostWords p (leaving capacity (sent ++ ts)) ≤ (typedWords p sent).length &&
      losesOnlySent p capacity (sent ++ ts) rest

/-- A request that types a batch sends what the base has not lost by then. -/
theorem HasTyped.format {p : SpacePlacement} {f : Formatter} {gone held sent ts : List Translation}
    (h : HasTyped p f gone held sent) (all : gone ++ held = sent)
    (words : ∀ t ∈ ts, t.IsPlainWord) :
    (f.format [] ts none).2 = Screen.typed ((typedWords p ts).drop
        (lostWords p (leaving f.history.capacity (sent ++ ts)) - (typedWords p sent).length)) ∧
      ∃ gone' held', gone' ++ held' = sent ++ ts ∧
        HasTyped p (f.format [] ts none).1 gone' held' (sent ++ ts) := by
  obtain ⟨gone', held', all', typed⟩ := h.foldl_append words
  rw [all] at all'
  have left : gone' = leaving f.history.capacity (sent ++ ts) := by
    rw [typed.gone_eq, all', capacity_of_setup (setup_foldl_append f ts)]
  have after := typed.screen
  rw [all'] at after
  rw [format_nil, prepare_eq (endsWith_nil _)]
  constructor
  · dsimp only
    rw [typed.shown, after, typedWords_append, List.drop_append, Screen.diff_append, left]
  · exact ⟨gone', held', all', typed.placement, typed.entries, typed.base, after, typed.fits,
      typed.full⟩

theorem text_captureBatches {p : SpacePlacement} {f : Formatter} {gone held sent : List Translation}
    (h : HasTyped p f gone held sent) (all : gone ++ held = sent) (c : Capture)
    {batches : List (List Translation)} (words : ∀ ts ∈ batches, ∀ t ∈ ts, t.IsPlainWord) :
    (captureBatches f c batches).text = c.text ++ received p f.history.capacity sent batches := by
  induction batches generalizing f c gone held sent with
  | nil => exact (List.append_nil _).symm
  | cons ts rest ih =>
    obtain ⟨sends, gone', held', all', typed⟩ := h.format all (words ts (List.mem_cons_self ..))
    have room := capacity_of_setup (setup_after f (.format ⟨[], ts, none⟩))
    change (f.format [] ts none).1.history.capacity = _ at room
    let taken := (Capture.sink.sendAll c (f.format [] ts none).2).1
    have step : taken.text = c.text ++ (typedWords p ts).drop
        (lostWords p (leaving f.history.capacity (sent ++ ts)) - (typedWords p sent).length) := by
      simp only [taken, Capture.sendAll_sink, sends, Screen.replayAll_typed]
    have later := ih typed all' taken fun us hus => words us (List.mem_cons_of_mem _ hus)
    rw [room, step, List.append_assoc] at later
    exact later

theorem length_received_le (p : SpacePlacement) (capacity : Nat) (sent : List Translation)
    (batches : List (List Translation)) :
    (received p capacity sent batches).length ≤ (typedWords p batches.flatten).length := by
  induction batches generalizing sent with
  | nil => exact Nat.le_refl _
  | cons ts rest ih =>
    have later := ih (sent ++ ts)
    simp only [received, List.flatten_cons, typedWords_append, List.length_append, List.length_drop]
    omega

/-- All is received exactly if the base never loses what was not sent before. -/
theorem received_eq_iff (p : SpacePlacement) (capacity : Nat) (sent : List Translation)
    (batches : List (List Translation)) :
    received p capacity sent batches = typedWords p batches.flatten ↔
      losesOnlySent p capacity sent batches = true := by
  induction batches generalizing sent with
  | nil => exact ⟨fun _ => rfl, fun _ => rfl⟩
  | cons ts rest ih =>
    have lost : lostWords p (leaving capacity (sent ++ ts)) ≤
        (typedWords p sent).length + (typedWords p ts).length := by
      rw [← List.length_append, ← typedWords_append]
      exact lostWords_take_le p _ _
    simp only [received, losesOnlySent, List.flatten_cons, typedWords_append, Bool.and_eq_true,
      decide_eq_true_eq, ← ih]
    constructor
    · -- what one batch loses no later one makes up for
      intro same
      have later := length_received_le p capacity (sent ++ ts) rest
      have len := congrArg List.length same
      simp only [List.length_append, List.length_drop] at len
      have kept : lostWords p (leaving capacity (sent ++ ts)) ≤ (typedWords p sent).length := by
        omega
      refine ⟨kept, ?_⟩
      rw [Nat.sub_eq_zero_of_le kept, List.drop_zero] at same
      exact List.append_cancel_left same
    · rintro ⟨kept, later⟩
      rw [Nat.sub_eq_zero_of_le kept, List.drop_zero, later]

/-- A base loses nothing that was not sent while no batch is longer than the history. -/
theorem losesOnlySent_of_short {p : SpacePlacement} {capacity : Nat} (sent : List Translation)
    {batches : List (List Translation)} (short : ∀ ts ∈ batches, ts.length ≤ capacity) :
    losesOnlySent p capacity sent batches = true := by
  induction batches generalizing sent with
  | nil => rfl
  | cons ts rest ih =>
    have fits := short ts (List.mem_cons_self ..)
    have later := ih (sent ++ ts) fun us hus => short us (List.mem_cons_of_mem _ hus)
    have before : leaving capacity (sent ++ ts) = sent.take ((sent ++ ts).length - capacity) := by
      refine List.take_append_of_le_length ?_
      rw [List.length_append]
      omega
    rw [losesOnlySent, later, before, Bool.and_true, decide_eq_true_eq]
    exact lostWords_take_le p sent _

/-- Plain words that are typed in batches are all received, each with its separator, exactly if by
the end of each batch the base has lost no more than was sent before it. -/
theorem captureBatches_eq_iff (p : SpacePlacement) (undoLevels : Nat) (o : Orthography)
    (batches : List (List Translation)) (words : ∀ ts ∈ batches, ∀ t ∈ ts, t.IsPlainWord) :
    (captureBatches (new { spacePlacement := p, undoLevels := undoLevels } o) {} batches).text =
        typedWords p batches.flatten ↔
      losesOnlySent p (max undoLevels 1) [] batches = true := by
  rw [text_captureBatches (hasTyped_new p undoLevels o) rfl {} words, ← received_eq_iff]
  exact Iff.rfl

def translationOf (w : Text) : Translation := Translation.ofOutlines [['S']] (some w)

def shortBatches : List (List Translation) :=
  [[translationOf "one".toList, translationOf "two".toList], [translationOf "three".toList]]

theorem captureBatches_shortBatches :
    (∀ ts ∈ shortBatches, ∀ t ∈ ts, t.IsPlainWord) ∧
      losesOnlySent .after 1 [] shortBatches = true ∧
      (captureBatches (new { spacePlacement := .after, undoLevels := 0 } .empty) {} shortBatches).text =
        "one two three ".toList := by
  have words : ∀ ts ∈ shortBatches, ∀ t ∈ ts, t.IsPlainWord := by decide +kernel
  have kept : losesOnlySent .after 1 [] shortBatches = true := by decide +kernel
  exact ⟨words, kept, (captureBatches_eq_iff .after 0 .empty shortBatches words).2 kept⟩

def longBatch : List (List Translation) :=
  [[translationOf (List.replicate 1100 'a'), translationOf ['b']]]

theorem captureBatches_longBatch :
    (∀ ts ∈ longBatch, ∀ t ∈ ts, t.IsPlainWord) ∧
      (captureBatches (new { undoLevels := 1 } .empty) {} longBatch).text ≠
        typedWords .before longBatch.flatten ∧
      (captureBatches (new { undoLevels := 1 } .empty) {} longBatch).text =
        List.replicate 512 'a' ++ [' ', 'b'] := by
  exact ⟨by decide +kernel, by decide +kernel, by decide +kernel⟩

end Formatter
end Stenotype
