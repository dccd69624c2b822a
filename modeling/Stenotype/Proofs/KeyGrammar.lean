import Stenotype.KeyCombo
import Stenotype.Proofs.Ink

/-!
# The grammar of key combinations

A combination is a tree: names in a row, and names with a combination in parentheses, which are held
while it is struck. A text stands for a tree if it is the names and parentheses of the tree, with
blanks between them; a blank has to come after a name that is only struck if more follows. A text
can be parsed if it stands for a tree in which no name has the key of one that it is held under, and
what is parsed are the events of the tree. So every key is released when the keys pressed after it
have been, and no key is pressed again before.
-/

set_option autoImplicit false

namespace Stenotype

namespace KeyCombo

inductive Combo
  | done
  | strike (name : Text) (rest : Combo)
  | hold (name : Text) (body rest : Combo)

def IsName (s : Text) : Prop := s ≠ [] ∧ ∀ c ∈ s, isKeyChar c = true

def IsBlanks (s : Text) : Prop := ∀ c ∈ s, Text.isBlank c = true

theorem isBlanks_nil : IsBlanks [] := by simp [IsBlanks]

namespace Combo

/-- The text stands for the combination. -/
inductive Written : Combo → Text → Prop
  | done {blanks : Text} (isBlanks : IsBlanks blanks) : Written done blanks
  | strike {blanks name s : Text} {rest : Combo} (isBlanks : IsBlanks blanks) (isName : IsName name)
      (apart : ∀ c ∈ s.head?, Text.isBlank c = true) (others : Written rest s) :
      Written (strike name rest) (blanks ++ name ++ s)
  | hold {blanks name gap inner s : Text} {body rest : Combo} (isBlanks : IsBlanks blanks)
      (isName : IsName name) (isGap : IsBlanks gap) (inside : Written body inner)
      (others : Written rest s) :
      Written (hold name body rest) (blanks ++ name ++ gap ++ '(' :: (inner ++ ')' :: s))

/-- No name has the key of one that it is held under, with `held` around them all. -/
def Apart : List Text → Combo → Prop
  | _, done => True
  | held, strike name rest => Text.lower name ∉ held ∧ Apart held rest
  | held, hold name body rest =>
    Text.lower name ∉ held ∧ Apart (Text.lower name :: held) body ∧ Apart held rest

def events : Combo → List KeyEvent
  | done => []
  | strike name rest => .press (Text.lower name) :: .release (Text.lower name) :: rest.events
  | hold name body rest =>
    .press (Text.lower name) :: (body.events ++ .release (Text.lower name) :: rest.events)

end Combo

/-- The keys that are held after the events, the innermost first. There are none if a key is pressed
while it is held, or is released before one pressed after it. -/
def replayHeld : List Text → List KeyEvent → Option (List Text)
  | held, [] => some held
  | held, .press key :: es => if held.contains key then none else replayHeld (key :: held) es
  | [], .release _ :: _ => none
  | key :: held, .release key' :: es => if key' = key then replayHeld held es else none

def missBlanks (ranges : Text.Ranges) : Bool :=
  ranges.all fun r => Text.blankRanges.all fun (a, b) => r.2 < a || b < r.1

theorem missBlanks_alphabetic : missBlanks Text.alphabeticRanges = true := by
  unfold Text.alphabeticRanges Text.Ranges.read
  repeat rw [Text.readRows_cons]
  decide +kernel

theorem missBlanks_decimalNumber : missBlanks Text.Category.decimalNumberRanges = true := by
  unfold Text.Category.decimalNumberRanges Text.Ranges.read
  repeat rw [Text.readRows_cons]
  decide

theorem missBlanks_letterNumber : missBlanks Text.Category.letterNumberRanges = true := by
  unfold Text.Category.letterNumberRanges Text.Ranges.read
  repeat rw [Text.readRows_cons]
  decide

theorem missBlanks_otherNumber : missBlanks Text.Category.otherNumberRanges = true := by
  unfold Text.Category.otherNumberRanges Text.Ranges.read
  repeat rw [Text.readRows_cons]
  decide

theorem isBlank_of_contains {ranges : Text.Ranges} (miss : missBlanks ranges = true) {c : Char}
    (mem : ranges.contains c = true) : Text.isBlank c = false := by
  refine Bool.eq_false_iff.2 fun blank => ?_
  obtain ⟨r, mem, low, high⟩ := (Text.Ranges.contains_iff _ _).1 mem
  obtain ⟨b, mem', low', high'⟩ := (Text.Ranges.contains_iff _ _).1 blank
  have apart := List.all_eq_true.1 (List.all_eq_true.1 miss r mem) b mem'
  simp only [Bool.or_eq_true, decide_eq_true_eq] at apart
  omega

theorem isBlank_of_isKeyChar {c : Char} (key : isKeyChar c = true) : Text.isBlank c = false := by
  cases ascii : Text.isAscii c with
  | true =>
    have all : ∀ n < 0x80, isKeyChar (Char.ofNat n) = true → Text.isBlank (Char.ofNat n) = false := by
      decide +kernel
    exact Text.forall_ascii (P := fun c => isKeyChar c = true → Text.isBlank c = false) all ascii key
  | false =>
    have underscore : c ≠ '_' := by
      rintro rfl
      cases ascii
    simp only [isKeyChar, Text.isAlphanumeric, Text.isAlphabetic, Text.isNumeric, ascii, underscore,
      Bool.false_eq_true, if_false, decide_false, Bool.or_false, Bool.or_eq_true] at key
    rcases key with letter | (decimal | letter) | other
    · exact isBlank_of_contains missBlanks_alphabetic letter
    · exact isBlank_of_contains missBlanks_decimalNumber decimal
    · exact isBlank_of_contains missBlanks_letterNumber letter
    · exact isBlank_of_contains missBlanks_otherNumber other

theorem isKeyChar_of_isBlank {c : Char} (blank : Text.isBlank c = true) : isKeyChar c = false := by
  refine Bool.eq_false_iff.2 fun key => ?_
  rw [isBlank_of_isKeyChar key] at blank
  cases blank

theorem isKeyChar_opening : isKeyChar '(' = false := rfl

theorem isKeyChar_closing : isKeyChar ')' = false := rfl

theorem tokens_blanks {blanks : Text} (isBlanks : IsBlanks blanks) (s : Text) :
    tokens (blanks ++ s) = tokens s := by
  induction blanks with
  | nil => rfl
  | cons c r ih =>
    obtain ⟨blank, others⟩ := List.forall_mem_cons.1 isBlanks
    rw [List.cons_append, tokens, if_pos blank, ih others]

theorem tokens_closing (s : Text) : ∃ left, tokens (')' :: s) = .close left :: tokens s := by
  refine ⟨Text.utf8Length (')' :: s), ?_⟩
  rw [tokens, if_neg (by decide), if_neg (by simp [isKeyChar_closing]), if_pos rfl]

theorem takeWhile_append_of_stop {p : Char → Bool} {s t : Text} (all : ∀ c ∈ s, p c = true)
    (stop : ∀ c ∈ t.head?, p c = false) : (s ++ t).takeWhile p = s ∧ (s ++ t).dropWhile p = t := by
  rw [List.takeWhile_append_of_pos all, List.dropWhile_append_of_pos all]
  cases t with
  | nil => simp
  | cons c t => simp [stop c rfl]

theorem tokens_strike {name s : Text} (isName : IsName name)
    (stop : ∀ c ∈ s.head?, isKeyChar c = false)
    (single : (s.dropWhile Text.isBlank).head? ≠ some '(') :
    tokens (name ++ s) = .strike (Text.lower name) :: tokens s := by
  obtain ⟨ne, all⟩ := isName
  obtain ⟨c, r, rfl⟩ := List.exists_cons_of_ne_nil ne
  obtain ⟨first, others⟩ := List.forall_mem_cons.1 all
  obtain ⟨taken, left⟩ := takeWhile_append_of_stop others stop
  rw [List.cons_append, tokens, if_neg (by simp [isBlank_of_isKeyChar first]), if_pos first]
  split
  · next rest opens =>
    rw [left] at opens
    simp [opens] at single
  · rw [taken, left]

theorem tokens_hold {name gap s : Text} (isName : IsName name) (isGap : IsBlanks gap) :
    tokens (name ++ gap ++ '(' :: s) = .hold (Text.lower name) :: tokens s := by
  obtain ⟨ne, all⟩ := isName
  obtain ⟨c, r, rfl⟩ := List.exists_cons_of_ne_nil ne
  obtain ⟨first, others⟩ := List.forall_mem_cons.1 all
  have stop : ∀ c ∈ (gap ++ '(' :: s).head?, isKeyChar c = false := by
    cases gap with
    | nil => simp [isKeyChar_opening]
    | cons d gap => simpa using isKeyChar_of_isBlank (isGap d (List.mem_cons_self ..))
  have open_paren : ∀ c ∈ ('(' :: s).head?, Text.isBlank c = false := by
    simp [show Text.isBlank '(' = false by decide]
  obtain ⟨taken, left⟩ := takeWhile_append_of_stop others stop
  obtain ⟨_, opens⟩ := takeWhile_append_of_stop isGap open_paren
  rw [List.append_assoc, List.cons_append, tokens, if_neg (by simp [isBlank_of_isKeyChar first]),
    if_pos first]
  split
  · next rest opens' =>
    rw [left, opens] at opens'
    cases opens'
    rw [taken]
  · next other => exact absurd (by rw [left, opens]) (other s)

theorem head?_item {blanks name : Text} (isBlanks : IsBlanks blanks) (isName : IsName name)
    (s : Text) :
    ∀ c ∈ (blanks ++ name ++ s).head?, Text.isBlank c = true ∨ isKeyChar c = true := by
  obtain ⟨ne, all⟩ := isName
  obtain ⟨d, r, rfl⟩ := List.exists_cons_of_ne_nil ne
  cases blanks with
  | nil => simpa using .inr (all d (List.mem_cons_self ..))
  | cons b blanks => simpa using .inl (isBlanks b (List.mem_cons_self ..))

theorem dropWhile_item {blanks name : Text} (isBlanks : IsBlanks blanks) (isName : IsName name)
    (s : Text) : (blanks ++ (name ++ s)).dropWhile Text.isBlank = name ++ s := by
  obtain ⟨ne, all⟩ := isName
  obtain ⟨d, r, rfl⟩ := List.exists_cons_of_ne_nil ne
  exact (takeWhile_append_of_stop isBlanks
    (by simpa using isBlank_of_isKeyChar (all d (List.mem_cons_self ..)))).2

namespace Combo

theorem Written.head {c : Combo} {s : Text} (h : Written c s) :
    ∀ d ∈ s.head?, Text.isBlank d = true ∨ isKeyChar d = true := by
  cases h with
  | done isBlanks => exact fun d hd => .inl (isBlanks d (List.mem_of_mem_head? hd))
  | strike isBlanks isName => exact head?_item isBlanks isName _
  | hold isBlanks isName =>
    rw [List.append_assoc (_ ++ _)]
    exact head?_item isBlanks isName _

theorem head?_name {name : Text} (isName : IsName name) (s : Text) :
    (name ++ s).head? ≠ some '(' := by
  obtain ⟨ne, all⟩ := isName
  obtain ⟨d, r, rfl⟩ := List.exists_cons_of_ne_nil ne
  rintro opens
  cases opens
  cases isKeyChar_opening.symm.trans (all '(' (List.mem_cons_self ..))

theorem Written.opens_nothing {c : Combo} {s t : Text} (h : Written c s)
    (after : ∀ d ∈ t.head?, d = ')') : ((s ++ t).dropWhile Text.isBlank).head? ≠ some '(' := by
  cases h with
  | done isBlanks =>
    have closing : Text.isBlank ')' = false := by decide
    have stop : ∀ d ∈ t.head?, Text.isBlank d = false := fun d hd => after d hd ▸ closing
    rw [(takeWhile_append_of_stop isBlanks stop).2]
    intro opens
    cases after '(' opens
  | strike isBlanks isName =>
    rw [List.append_assoc, List.append_assoc, dropWhile_item isBlanks isName]
    exact head?_name isName _
  | hold isBlanks isName =>
    rw [List.append_assoc (_ ++ _), List.append_assoc, List.append_assoc,
      dropWhile_item isBlanks isName]
    exact head?_name isName _

theorem Written.events_append {c : Combo} {s : Text} (h : Written c s) {held : List Text}
    (apart : Apart held c) {t : Text} (after : ∀ d ∈ t.head?, d = ')') (length : Nat) :
    KeyCombo.events length held (tokens (s ++ t)) =
      (c.events ++ ·) <$> KeyCombo.events length held (tokens t) := by
  induction h generalizing held t with
  | done isBlanks =>
    rw [tokens_blanks isBlanks]
    cases KeyCombo.events length held (tokens t) <;> rfl
  | @strike blanks name s rest isBlanks isName stop others ih =>
    obtain ⟨new, later⟩ := apart
    have stop : ∀ d ∈ (s ++ t).head?, isKeyChar d = false := by
      intro d hd
      cases s with
      | nil => exact after d hd ▸ isKeyChar_closing
      | cons e s => exact isKeyChar_of_isBlank (stop d hd)
    rw [List.append_assoc, List.append_assoc, tokens_blanks isBlanks,
      tokens_strike isName stop (others.opens_nothing after), KeyCombo.events, if_neg new,
      ih later after]
    cases KeyCombo.events length held (tokens t) <;> rfl
  | @hold blanks name gap inner s body rest isBlanks isName isGap inside others ih ih' =>
    obtain ⟨new, within, later⟩ := apart
    obtain ⟨left, closing⟩ := tokens_closing (s ++ t)
    have whole : blanks ++ name ++ gap ++ '(' :: (inner ++ ')' :: s) ++ t =
        blanks ++ (name ++ gap ++ '(' :: (inner ++ ')' :: (s ++ t))) := by
      simp only [List.append_assoc, List.cons_append]
    rw [whole, tokens_blanks isBlanks, tokens_hold isName isGap, KeyCombo.events, if_neg new,
      ih within (by simp), closing, KeyCombo.events, ih' later after]
    cases KeyCombo.events length held (tokens t) <;> simp [Combo.events]

end Combo

/-- The text ends what the held keys are held for, one after the other, and the combination. -/
inductive Closes : List Text → Text → List KeyEvent → Prop
  | all {c : Combo} {s : Text} (written : c.Written s) (apart : c.Apart []) : Closes [] s c.events
  | one {key : Text} {held : List Text} {c : Combo} {inner s : Text} {es : List KeyEvent}
      (written : c.Written inner) (apart : c.Apart (key :: held)) (others : Closes held s es) :
      Closes (key :: held) (inner ++ ')' :: s) (c.events ++ .release key :: es)

theorem Combo.Written.blank {c : Combo} {s : Text} (h : c.Written s) {d : Char}
    (blank : Text.isBlank d = true) : c.Written (d :: s) := by
  have longer {blanks : Text} (isBlanks : IsBlanks blanks) : IsBlanks (d :: blanks) :=
    List.forall_mem_cons.2 ⟨blank, isBlanks⟩
  cases h with
  | done isBlanks => exact .done (longer isBlanks)
  | strike isBlanks isName stop others => exact .strike (longer isBlanks) isName stop others
  | hold isBlanks isName isGap inside others =>
    exact .hold (longer isBlanks) isName isGap inside others

namespace Closes
variable {held : List Text} {s : Text} {es : List KeyEvent}

theorem prepend (h : Closes held s es) (f : Combo → Combo) (front : Text) (first : List KeyEvent)
    (written : ∀ c t, t <+: s → c.Written t → (f c).Written (front ++ t))
    (apart : ∀ c, c.Apart held → (f c).Apart held) (events : ∀ c, (f c).events = first ++ c.events) :
    Closes held (front ++ s) (first ++ es) := by
  cases h with
  | @all c s here fits =>
    rw [← events c]
    exact .all (written c s (List.prefix_refl s) here) (apart c fits)
  | @one key held c inner s es here fits others =>
    rw [← List.append_assoc, ← List.append_assoc, ← events c]
    exact .one (written c inner (List.prefix_append ..) here) (apart c fits) others

theorem blank (h : Closes held s es) {d : Char} (blank : Text.isBlank d = true) :
    Closes held (d :: s) es :=
  h.prepend id [d] [] (fun _ _ _ here => here.blank blank) (fun _ fits => fits) (fun _ => rfl)

theorem strike (h : Closes held s es) {name : Text} (isName : IsName name)
    (stop : ∀ c ∈ s.head?, isKeyChar c = false) (new : Text.lower name ∉ held) :
    Closes held (name ++ s) (.press (Text.lower name) :: .release (Text.lower name) :: es) := by
  refine h.prepend (.strike name) name [.press _, .release _] (fun c t front here => ?_)
    (fun _ fits => ⟨new, fits⟩) (fun _ => rfl)
  have apart : ∀ d ∈ t.head?, Text.isBlank d = true := by
    intro d hd
    have first : d ∈ s.head? := by
      obtain ⟨rest, rfl⟩ := front
      rw [List.head?_append]
      exact Option.or_of_isSome (Option.isSome_of_mem hd) |>.trans hd
    exact (here.head d hd).resolve_right (by simp [stop d first])
  exact Combo.Written.strike isBlanks_nil isName apart here

theorem hold {name gap : Text} (h : Closes (Text.lower name :: held) s es) (isName : IsName name)
    (isGap : IsBlanks gap) (new : Text.lower name ∉ held) :
    Closes held (name ++ gap ++ '(' :: s) (.press (Text.lower name) :: es) := by
  cases h with
  | @one _ _ body inner s es here fits others =>
    have whole := others.prepend (.hold name body) (name ++ gap ++ '(' :: (inner ++ [')']))
      (.press (Text.lower name) :: (body.events ++ [.release (Text.lower name)]))
      (fun c t _ later => by
        have written := Combo.Written.hold isBlanks_nil isName isGap here later
        simpa using written)
      (fun c later => ⟨new, fits, later⟩) (fun c => by simp [Combo.events])
    simpa using whole

end Closes

theorem ok_of_cons (front : List KeyEvent) {es : List KeyEvent}
    {rest : Except KeyComboError (List KeyEvent)}
    (ok : (do return front ++ (← rest)) = Except.ok es) :
    ∃ later, rest = .ok later ∧ es = front ++ later := by
  cases rest with
  | error _ => cases ok
  | ok later => exact ⟨later, rfl, (Except.ok.inj ok).symm⟩

theorem ok_of_toOption {ε α : Type} {result : Except ε α} {a : α} (h : result.toOption = some a) :
    result = .ok a := by
  cases result with
  | error _ => cases h
  | ok b => exact congrArg Except.ok (Option.some.inj h)

theorem isName_takeWhile {c : Char} (key : isKeyChar c = true) (r : Text) :
    IsName (c :: r.takeWhile isKeyChar) :=
  ⟨List.cons_ne_nil _ _, List.forall_mem_cons.2 ⟨key, List.all_eq_true.1 List.all_takeWhile⟩⟩

theorem closes_of_events {length : Nat} {held : List Text} {s : Text} {es : List KeyEvent}
    (ok : KeyCombo.events length held (tokens s) = .ok es) : Closes held s es := by
  fun_induction tokens s generalizing held es with
  | case1 =>
    cases held with
    | nil =>
      cases ok
      exact .all (.done isBlanks_nil) trivial
    | cons key held => cases ok
  | case2 c r blank ih => exact (ih ok).blank blank
  | case3 c r ink isKey key rest opens =>
    rename_i ih
    rw [KeyCombo.events] at ok
    split at ok
    · cases ok
    · next new =>
      obtain ⟨later, rest_ok, rfl⟩ := ok_of_cons [.press _] ok
      have isGap : IsBlanks ((r.dropWhile isKeyChar).takeWhile Text.isBlank) :=
        List.all_eq_true.1 List.all_takeWhile
      have parts : c :: r = c :: r.takeWhile isKeyChar ++
          (r.dropWhile isKeyChar).takeWhile Text.isBlank ++ '(' :: rest := by
        rw [← opens, List.append_assoc, List.takeWhile_append_dropWhile, List.cons_append,
          List.takeWhile_append_dropWhile]
      rw [parts]
      -- the name holds what comes up to its parenthesis, which closes before the keys around it
      exact (ih rest_ok).hold (isName_takeWhile isKey r) isGap new
  | case4 c r ink isKey key single =>
    rename_i ih
    rw [KeyCombo.events] at ok
    split at ok
    · cases ok
    · next new =>
      obtain ⟨later, rest_ok, rfl⟩ := ok_of_cons [.press _, .release _] ok
      have stop : ∀ d ∈ (r.dropWhile isKeyChar).head?, isKeyChar d = false := by
        intro d hd
        have left := List.head?_dropWhile_not isKeyChar r
        rw [hd] at left
        simpa using left
      have parts : c :: r = c :: r.takeWhile isKeyChar ++ r.dropWhile isKeyChar := by
        rw [List.cons_append, List.takeWhile_append_dropWhile]
      rw [parts]
      exact (ih rest_ok).strike (isName_takeWhile isKey r) stop new
  | case5 r _ _ ih =>
    cases held with
    | nil => cases ok
    | cons key held =>
      obtain ⟨later, rest_ok, rfl⟩ := ok_of_cons [.release key] ok
      exact Closes.one (.done isBlanks_nil) trivial (ih rest_ok)
  | case6 c r _ _ _ ih => cases held <;> cases ok

/-- While the events of a tree are replayed, the keys held around it stay as they are. -/
theorem Combo.replayHeld_events {c : Combo} {held : List Text} (apart : Apart held c)
    (es : List KeyEvent) : replayHeld held (c.events ++ es) = replayHeld held es := by
  induction c generalizing held es with
  | done => rfl
  | strike name rest ih =>
    obtain ⟨new, later⟩ := apart
    rw [Combo.events, List.cons_append, List.cons_append, replayHeld, if_neg (by simpa using new),
      replayHeld, if_pos rfl, ih later]
  | hold name body rest ih ih' =>
    obtain ⟨new, within, later⟩ := apart
    rw [Combo.events, List.cons_append, List.append_assoc, List.cons_append, replayHeld,
      if_neg (by simpa using new), ih within, replayHeld, if_pos rfl, ih' later]

theorem parse_eq_ok_iff (s : Text) (es : List KeyEvent) :
    parse s = .ok es ↔ ∃ c : Combo, c.Written s ∧ c.Apart [] ∧ c.events = es := by
  constructor
  · intro ok
    cases closes_of_events ok with
    | all written apart => exact ⟨_, written, apart, rfl⟩
  · rintro ⟨c, written, apart, rfl⟩
    have whole := written.events_append apart (t := []) (by simp) (Text.utf8Length s)
    rw [List.append_nil] at whole
    rw [parse, whole, tokens, KeyCombo.events]
    exact congrArg Except.ok (List.append_nil c.events)

/-- What is parsed is what stands for a tree, with its events, and they leave no key held. -/
theorem parse_follows_grammar (s : Text) :
    (∀ es, parse s = .ok es ↔ ∃ c : Combo, c.Written s ∧ c.Apart [] ∧ c.events = es) ∧
      ∀ es, parse s = .ok es → replayHeld [] es = some [] := by
  refine ⟨parse_eq_ok_iff s, fun es ok => ?_⟩
  obtain ⟨c, _, apart, rfl⟩ := (parse_eq_ok_iff s es).1 ok
  simpa [replayHeld] using c.replayHeld_events apart []

/-- A key is held while two others are struck. -/
theorem parse_follows_grammar_nested :
    let es : List KeyEvent := [.press ['k'], .press ['a'], .release ['a'], .press ['b'],
      .release ['b'], .release ['k'], .press ['a'], .release ['a']]
    parse "K (a B)A ".toList = .ok es ∧
      (∃ c : Combo, c.Written "K (a B)A ".toList ∧ c.Apart [] ∧ c.events = es) ∧
      replayHeld [] es = some [] := by
  intro es
  have ok : parse "K (a B)A ".toList = .ok es := ok_of_toOption (by decide +kernel)
  exact ⟨ok, ((parse_follows_grammar _).1 es).1 ok, (parse_follows_grammar _).2 es ok⟩

/-- A name inside parentheses that has the key held by them is refused, whatever its case. -/
example : (parse "k(a K)".toList).toOption = none := by decide +kernel

end KeyCombo
end Stenotype
