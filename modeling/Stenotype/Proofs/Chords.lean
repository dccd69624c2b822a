import Stenotype.Stroke

/-!
# Reading outlines

An outline is read from left to right. Vowels, their digits, the star and the hyphen begin what is
not on the left bank; a digit says that the number bar was held. What is read is the chord that was
written, so chords with the same outline have the same keys.
-/

set_option autoImplicit false

namespace Stenotype
namespace Key

def written : List Key := board ++ board.map withNumberBar

def divider? (c : Char) : Option Key := written.find? fun k => k.dividesBanks && k.symbol == c

/-- The keys of an outline of which something between the banks has been read, or nothing. -/
def read (divided : Bool) : Text → List Key
  | [] => []
  | c :: r =>
    if c = '-' then read true r
    else
      match divider? c with
      | some k => k :: read true r
      | none =>
        let k := if divided then ⟨.right, c⟩ else if c = '#' then numberBar else ⟨.left, c⟩
        k :: read divided r

def leads (k : Key) : Bool := k.side ≠ .right && !k.dividesBanks

section symbols
variable {k : Key}

theorem symbol_ne_hyphen (h : k ∈ written) : k.symbol ≠ '-' := by
  have all : ∀ k ∈ written, k.symbol ≠ '-' := by decide +kernel
  exact all k h

theorem divider?_symbol (h : k ∈ written) :
    divider? k.symbol = if k.dividesBanks then some k else none := by
  have all : ∀ k ∈ written, divider? k.symbol = if k.dividesBanks then some k else none := by
    decide +kernel
  exact all k h

theorem eq_of_leads (h : k ∈ written) (leads : k.leads = true) :
    (if k.symbol = '#' then numberBar else ⟨.left, k.symbol⟩) = k := by
  have all : ∀ k ∈ written, k.leads = true →
      (if k.symbol = '#' then numberBar else ⟨.left, k.symbol⟩) = k := by
    decide +kernel
  exact all k h leads

end symbols

def Ordered (ks : List Key) : Prop := ks.Pairwise fun k l => l.leads = true → k.leads = true

instance (ks : List Key) : Decidable (Ordered ks) :=
  inferInstanceAs (Decidable (ks.Pairwise fun k l => l.leads = true → k.leads = true))

theorem read_spell {ks : List Key} (known : ∀ k ∈ ks, k ∈ written) (ordered : Ordered ks)
    {divided : Bool} (past : divided = true → ∀ k ∈ ks, k.leads = false) :
    read divided (spell divided ks) = ks := by
  induction ks generalizing divided with
  | nil => rfl
  | cons k ks ih =>
    obtain ⟨here, known⟩ := List.forall_mem_cons.1 known
    obtain ⟨first, ordered⟩ := List.pairwise_cons.1 ordered
    have symbol := symbol_ne_hyphen here
    have divider := divider?_symbol here
    -- once a key that does not lead has been written, no key that leads can follow
    have later (trails : k.leads = false) : read true (spell true ks) = ks :=
      ih known ordered fun _ l mem => by
        cases lead : l.leads with
        | false => rfl
        | true => exact absurd (first l mem lead) (by simp [trails])
    cases divides : k.dividesBanks with
    | true =>
      have rest := later (by simp [leads, divides])
      rw [divides, if_pos rfl] at divider
      have spelled : spell divided (k :: ks) = k.symbol :: spell true ks := by
        cases side : k.side <;> simp [spell, side, divides]
      rw [spelled, read, if_neg symbol, divider]
      exact congrArg (k :: ·) rest
    | false =>
      rw [divides, if_neg Bool.false_ne_true] at divider
      cases lead : k.leads with
      | true =>
        have early : divided = false := by
          cases divided with
          | false => rfl
          | true => exact absurd (past rfl k (List.mem_cons_self ..)) (by simp [lead])
        subst early
        have spelled : spell false (k :: ks) = k.symbol :: spell false ks := by
          cases side : k.side <;> simp_all [spell, leads]
        rw [spelled, read, if_neg symbol, divider]
        dsimp only
        rw [if_neg Bool.false_ne_true, eq_of_leads here lead, ih known ordered (by simp)]
      | false =>
        have rest := later lead
        have side : k.side = .right := by simpa [leads, divides] using lead
        have same : (⟨.right, k.symbol⟩ : Key) = k := by rw [← side]
        have read_here : read true (k.symbol :: spell true ks) = k :: ks := by
          rw [read, if_neg symbol, divider]
          dsimp only
          rw [if_pos rfl, same, rest]
        cases divided with
        | true =>
          have spelled : spell true (k :: ks) = k.symbol :: spell true ks := by simp [spell, side]
          rw [spelled, read_here]
        | false =>
          have spelled : spell false (k :: ks) = '-' :: k.symbol :: spell true ks := by
            simp [spell, side, divides]
          rw [spelled, read, if_pos rfl, read_here]

def unnumbered (k : Key) : Key := (board.find? fun l => l.withNumberBar == k).getD k

/-- The keys that were held, given those that an outline is made of. -/
def held (ks : List Key) : List Key :=
  if ks.any fun k => k.symbol.isDigit then numberBar :: ks.map unnumbered else ks

theorem held_of_board {ks : List Key} (sub : ks ⊆ board) : held ks = ks := by
  have noDigit : ∀ k ∈ board, k.symbol.isDigit = false := by decide +kernel
  have none : (ks.any fun k => k.symbol.isDigit) = false :=
    List.any_eq_false.2 fun k mem => ne_true_of_eq_false (noDigit k (sub mem))
  rw [held, none, if_neg Bool.false_ne_true]

theorem held_map_withNumberBar {ks : List Key} (sub : ks ⊆ board)
    (numeral : ks.any (fun k => k.numeral?.isSome) = true) :
    held (ks.map withNumberBar) = numberBar :: ks := by
  have back : ∀ k ∈ board, k.withNumberBar.unnumbered = k := by decide +kernel
  have digit : ∀ k ∈ board, k.numeral?.isSome = true → k.withNumberBar.symbol.isDigit = true := by
    decide +kernel
  obtain ⟨k, mem, types⟩ := List.any_eq_true.1 numeral
  have some : ((ks.map withNumberBar).any fun k => k.symbol.isDigit) = true :=
    List.any_eq_true.2 ⟨_, List.mem_map_of_mem mem, digit k (sub mem) types⟩
  have same : (ks.map withNumberBar).map unnumbered = ks := by
    rw [List.map_map]
    exact (List.map_congr_left (g := id) fun k mem => back k (sub mem)).trans (List.map_id ks)
  rw [held, some, if_pos rfl, same]

end Key

namespace Stroke

open Key

/-- The number bar is spent on the digits, and they tell that it was held. -/
theorem held_applyNumberBar (p : Key → Bool) :
    held (applyNumberBar (board.filter p)) = board.filter p := by
  have sub : board.filter p ⊆ board := List.filter_sublist.subset
  rw [applyNumberBar]
  split
  · next bar =>
    split
    · next numeral =>
      have apart : numberBar ∉ board.tail := by decide
      have split : board.filter p = numberBar :: board.tail.filter p :=
        List.filter_cons_of_pos (List.mem_filter.1 bar).2
      have others : (board.tail.filter p).filter (· ≠ numberBar) = board.tail.filter p :=
        List.filter_eq_self.2 fun k mem => decide_eq_true fun same =>
          apart (same ▸ (List.mem_filter.1 mem).1)
      rw [split] at numeral ⊢
      rw [List.filter_cons_of_neg (by simp), others]
      refine held_map_withNumberBar (fun k mem => List.mem_of_mem_tail (List.mem_filter.1 mem).1) ?_
      have bar : numberBar.numeral?.isSome = false := rfl
      rwa [List.any_cons, bar, Bool.false_or] at numeral
    · exact held_of_board sub
  · exact held_of_board sub

variable {ks : List Key}

theorem applyNumberBar_cases (ks : List Key) :
    applyNumberBar ks = ks ∨
      ∃ ls : List Key, ls.Sublist ks ∧ applyNumberBar ks = ls.map withNumberBar := by
  rw [applyNumberBar]
  split
  · split
    · exact .inr ⟨_, List.filter_sublist, rfl⟩
    · exact .inl rfl
  · exact .inl rfl

theorem written_applyNumberBar (sub : ks.Sublist board) :
    (∀ k ∈ applyNumberBar ks, k ∈ written) ∧ Ordered (applyNumberBar ks) := by
  have ordered : Ordered board := by decide +kernel
  have ordered' : Ordered (board.map withNumberBar) := by decide +kernel
  rcases applyNumberBar_cases ks with same | ⟨ls, sub', same⟩
  · rw [same]
    exact ⟨fun k mem => List.mem_append_left _ (sub.subset mem), ordered.sublist sub⟩
  · rw [same]
    have sub'' := (sub'.trans sub).map withNumberBar
    exact ⟨fun k mem => List.mem_append_right _ (sub''.subset mem), ordered'.sublist sub''⟩

theorem held_read_outline (ks : List Key) :
    held (Key.read false (ofChord ks).outline) = board.filter (· ∈ ks) := by
  have sub : (board.filter (· ∈ ks)).Sublist board := List.filter_sublist
  obtain ⟨known, ordered⟩ := written_applyNumberBar sub
  have keys : Key.read false (ofChord ks).outline = applyNumberBar (board.filter (· ∈ ks)) :=
    read_spell known ordered (by simp)
  rw [keys, held_applyNumberBar]

theorem ofChord_eq {ks ls : List Key} (same : ∀ k ∈ board, k ∈ ks ↔ k ∈ ls) :
    ofChord ks = ofChord ls := by
  have keys : board.filter (· ∈ ks) = board.filter (· ∈ ls) :=
    List.filter_congr fun k mem => decide_eq_decide.2 (same k mem)
  simp only [ofChord, keys]

theorem outline_eq_iff {ks ls : List Key} :
    (ofChord ks).outline = (ofChord ls).outline ↔ ∀ k ∈ board, k ∈ ks ↔ k ∈ ls := by
  constructor
  · intro same k mem
    have keys : board.filter (· ∈ ks) = board.filter (· ∈ ls) := by
      rw [← held_read_outline, same, held_read_outline]
    simpa [mem] using congrArg (k ∈ ·) keys
  · intro same
    rw [ofChord_eq same]

def keyNames : List Text := board.map Key.name

example : keyNames.map String.ofList =
    ["#", "S-", "T-", "K-", "P-", "W-", "H-", "R-", "A-", "O-", "*", "-E", "-U", "-F", "-R", "-P",
      "-B", "-L", "-G", "-T", "-S", "-D", "-Z"] := by decide

theorem ofName?_eq_some_iff {n : Text} {k : Key} : ofName? n = some k ↔ k ∈ board ∧ k.name = n := by
  have distinct : ∀ k ∈ board, ofName? k.name = some k := by decide +kernel
  constructor
  · intro found
    exact ⟨List.mem_of_find?_eq_some found,
      eq_of_beq (List.find?_some (p := fun k : Key => k.name == n) found)⟩
  · rintro ⟨mem, rfl⟩
    exact distinct k mem

theorem mem_keyNames {n : Text} : n ∈ keyNames ↔ ∃ k, ofName? n = some k := by
  simp only [keyNames, List.mem_map, ofName?_eq_some_iff]

theorem name_mem_iff {k : Key} (known : k ∈ board) {names : List Text} :
    k ∈ names.filterMap ofName? ↔ k.name ∈ names := by
  simp only [List.mem_filterMap, ofName?_eq_some_iff, known, true_and, exists_eq_right']

def named (n : Text) : Except UnknownKey Key :=
  match ofName? n with
  | some k => .ok k
  | none => .error ⟨n⟩

theorem mapM_named (names : List Text) :
    names.mapM named =
      match names.find? (· ∉ keyNames) with
      | some n => .error ⟨n⟩
      | none => .ok (names.filterMap ofName?) := by
  induction names with
  | nil => rfl
  | cons n names ih =>
    rw [List.mapM_cons, ih, List.find?_cons, named]
    cases found : ofName? n with
    | none =>
      have unknown : n ∉ keyNames := by simp [mem_keyNames, found]
      simp only [unknown, not_false_eq_true, decide_true]
      rfl
    | some k =>
      have known : n ∈ keyNames := mem_keyNames.2 ⟨k, found⟩
      simp only [known, not_true_eq_false, decide_false, List.filterMap_cons_some found]
      cases names.find? (· ∉ keyNames) <;> rfl

theorem ofKeyNames_eq (names : List Text) :
    ofKeyNames names =
      match names.find? (· ∉ keyNames) with
      | some n => .error ⟨n⟩
      | none => .ok (ofChord (names.filterMap ofName?)) := by
  change (names.mapM named >>= fun ks => pure (ofChord ks)) = _
  rw [mapM_named]
  cases names.find? (· ∉ keyNames) <;> rfl

theorem ofKeyNames_of_known {names : List Text} (known : ∀ n ∈ names, n ∈ keyNames) :
    ofKeyNames names = .ok (ofChord (names.filterMap ofName?)) := by
  have none : names.find? (· ∉ keyNames) = none := List.find?_eq_none.2 (by simpa using known)
  rw [ofKeyNames_eq, none]

theorem same_names_iff {a b : List Text} (ha : ∀ n ∈ a, n ∈ keyNames) (hb : ∀ n ∈ b, n ∈ keyNames) :
    (∀ k ∈ board, k ∈ a.filterMap ofName? ↔ k ∈ b.filterMap ofName?) ↔ ∀ n, n ∈ a ↔ n ∈ b := by
  constructor
  · intro same n
    by_cases known : n ∈ keyNames
    · obtain ⟨k, mem, rfl⟩ := List.mem_map.1 known
      rw [← name_mem_iff mem, ← name_mem_iff mem, same k mem]
    · exact iff_of_false (mt (ha n) known) (mt (hb n) known)
  · intro same k mem
    rw [name_mem_iff mem, name_mem_iff mem, same]

/-- A list of names gives a stroke unless one of them is unknown. Two strokes have the same outline
exactly if they were made of the same keys, and then they are the same; the star alone takes back. -/
theorem outline_identifies_chord (a b : List Text) :
    ((∃ e, ofKeyNames a = .error e) ↔ ∃ n ∈ a, n ∉ keyNames) ∧
      ((∀ n ∈ a, n ∈ keyNames) → (∀ n ∈ b, n ∈ keyNames) →
        ∃ s t, ofKeyNames a = .ok s ∧ ofKeyNames b = .ok t ∧
          (s.outline = t.outline ↔ ∀ n, n ∈ a ↔ n ∈ b) ∧ (s.outline = t.outline → s = t) ∧
          (s.isCorrection = true ↔ ∀ n, n ∈ a ↔ n = star.name)) := by
  constructor
  · rw [ofKeyNames_eq]
    cases found : a.find? (· ∉ keyNames) with
    | none => simpa using found
    | some n =>
      have unknown := List.find?_some found
      exact iff_of_true ⟨_, rfl⟩ ⟨n, List.mem_of_find?_eq_some found, of_decide_eq_true unknown⟩
  · intro ha hb
    refine ⟨_, _, ofKeyNames_of_known ha, ofKeyNames_of_known hb, ?_, ?_, ?_⟩
    · rw [outline_eq_iff, same_names_iff ha hb]
    · exact fun same => ofChord_eq (outline_eq_iff.1 same)
    · have alone : ∀ n ∈ [star.name], n ∈ keyNames := by decide
      have outline : (ofChord ([star.name].filterMap ofName?)).outline = ['*'] := by decide
      rw [isCorrection, beq_iff_eq, ← outline, outline_eq_iff, same_names_iff ha alone]
      simp only [List.mem_singleton]

/-- The number bar is not in the outline, and there is a P on either side. -/
theorem outline_identifies_chord_numbers :
    let a := ["-P", "#", "P-", "S-", "-P"].map String.toList
    let b := ["S-", "-P", "P-", "#"].map String.toList
    ((∀ n ∈ a, n ∈ keyNames) ∧ ∀ n ∈ b, n ∈ keyNames) ∧
      ∃ s, ofKeyNames a = .ok s ∧ ofKeyNames b = .ok s ∧ s.isCorrection = false := by
  intro a b
  have ha : ∀ n ∈ a, n ∈ keyNames := by decide
  have hb : ∀ n ∈ b, n ∈ keyNames := by decide
  have sub : a ⊆ b := by decide
  have sub' : b ⊆ a := by decide
  obtain ⟨s, t, first, second, same, equal, star⟩ := (outline_identifies_chord a b).2 ha hb
  obtain rfl : s = t := equal (same.2 fun n => ⟨@sub n, @sub' n⟩)
  refine ⟨⟨ha, hb⟩, s, first, second, ?_⟩
  rw [← Bool.not_eq_true, star]
  exact fun alone => absurd ((alone "#".toList).1 (by decide)) (by decide)

end Stroke
end Stenotype
