import Stenotype.Proofs.LetterSuffixes

/-!
# Capitals that suffixes carry on

A word that is put in capitals hands them on to its suffixes. The rules do not tell case, so the same
ones fire, but what they bring along is in small letters, and more of the end of the word may be taken
back for it. As the word stands at the end of the output as far back as rules reach, both runs type
its end anew alike.
-/

set_option autoImplicit false

namespace Stenotype

def Action.opening (capitals attached : Bool) (separator typed : Text) : Action :=
  { text := separator ++ Text.inCase capitals typed
    word := Text.inCase capitals typed
    prevAttach := attached
    upperCarry := capitals }

namespace View

/-- Nothing is typed yet; `w` is to put what comes first in capitals. -/
structure Awaits (v w : View) : Prop where
  text : v.screen.text = []
  text' : w.screen.text = []
  last : ∃ capitalized attached, v.last = Action.start capitalized attached ∧
    w.last = { Action.start capitalized attached with capitalize := false, upper := true }

/-- `w` shows in capitals what `v` shows, with a word at its end that suffixes join: its last `n`
characters at least are there. -/
structure Capitals (n : Nat) (v w : View) : Prop where
  text : w.screen.text = Text.asciiUpper v.screen.text
  word : w.last.word = Text.asciiUpper v.last.word
  typed : Text.asciiUpper w.last.text = w.last.text
  letters : v.last.word.IsLetters
  ne : v.last.word ≠ []
  tail : Text.takeLast n v.last.word <:+ v.screen.text
  carries : v.last.Carries false
  carries' : w.last.Carries true

variable {n : Nat} {v w : View}

namespace Capitals

theorem ne' (h : Capitals n v w) : w.last.word ≠ [] := by
  rw [h.word]
  exact fun none => h.ne (List.map_eq_nil_iff.1 none)

theorem letters' (h : Capitals n v w) : w.last.word.IsLetters := h.word ▸ h.letters.asciiUpper

theorem tail' (h : Capitals n v w) : Text.takeLast n w.last.word <:+ w.screen.text := by
  rw [h.word, h.text, ← Text.asciiUpper_takeLast]
  exact h.tail.map Char.toUpper

end Capitals

theorem Awaits.opened (h : Awaits v w) (attached : Bool) {separator typed : Text}
    (plain : Text.asciiUpper separator = separator) (letters : typed.IsLetters) (ne : typed ≠ []) :
    Capitals n (v.apply (.opening false attached separator typed))
      (w.apply (.opening true attached separator typed)) := by
  have text : (v.apply (.opening false attached separator typed)).screen.text =
      separator ++ typed := by
    simp [apply, Action.edit, h.text, Text.dropLast, Action.opening, Text.inCase]
  have text' : (w.apply (.opening true attached separator typed)).screen.text =
      separator ++ Text.asciiUpper typed := by
    simp [apply, Action.edit, h.text', Text.dropLast, Action.opening, Text.inCase, letters.upper]
  have upper : Text.asciiUpper (separator ++ typed) = separator ++ Text.asciiUpper typed := by
    rw [Text.asciiUpper_append, plain]
  constructor
  case text => rw [text, text', upper]
  case word => exact letters.upper
  case typed =>
    change Text.asciiUpper (separator ++ Text.upper typed) = separator ++ Text.upper typed
    rw [letters.upper, Text.asciiUpper_append, plain, Text.asciiUpper_asciiUpper]
  case letters => exact letters
  case ne => exact ne
  case tail =>
    rw [text]
    exact (Text.takeLast_suffix n typed).trans (List.suffix_append separator typed)
  case carries => exact ⟨rfl, rfl, rfl, rfl⟩
  case carries' => exact ⟨rfl, rfl, rfl, rfl⟩

theorem text_apply_rewriting (v : View) (capitals : Bool) {old new output : Text}
    (stem : Text.KeepsStem n old new) (long : (Text.takeLast n old).length ≤ output.length) :
    let common := Text.commonLength old new
    (v.apply (.rewriting capitals old new output)).screen.text =
      Text.dropLast (old.length - common) v.screen.text ++ Text.inCase capitals (new.drop common) := by
  intro common
  have bound := stem.common
  have enough : old.length - common ≤ output.length := by
    rw [Text.takeLast, List.length_drop] at long
    omega
  change Text.dropLast (Text.takeLast (old.length - common) output).length v.screen.text ++ _ = _
  rw [Text.length_takeLast enough]
  rfl

theorem Capitals.rewritten {new new' output output' : Text} (h : Capitals n v w)
    (stem : Text.KeepsStem n v.last.word new) (stem' : Text.KeepsStem n w.last.word new')
    (same : Text.asciiUpper new' = Text.asciiUpper new) (letters : new.IsLetters)
    (letters' : new'.IsLetters) (long : (Text.takeLast n v.last.word).length ≤ output.length)
    (long' : (Text.takeLast n w.last.word).length ≤ output'.length) :
    Capitals n (v.apply (.rewriting false v.last.word new output))
      (w.apply (.rewriting true w.last.word new' output')) := by
  obtain ⟨front, tail⟩ := h.tail
  have typed' : Text.IsLetters (new'.drop (Text.commonLength w.last.word new')) := fun c mem =>
    letters' c (List.mem_of_mem_drop mem)
  have text := v.text_apply_rewriting false stem long
  have text' := w.text_apply_rewriting true stem' long'
  simp only [Text.inCase, Bool.false_eq_true, ↓reduceIte] at text text'
  rw [Text.IsLetters.upper typed'] at text'
  constructor
  case text =>
    rw [text, text', h.text, h.word, ← tail, Text.length_asciiUpper]
    exact Text.retype_upper stem (h.word ▸ stem') same front
  case word =>
    change Text.upper (Text.rightmostWord new') = Text.asciiUpper (Text.rightmostWord new)
    rw [letters.rightmostWord, letters'.rightmostWord, letters'.upper, same]
  case typed =>
    change Text.asciiUpper (Text.upper _) = Text.upper _
    rw [Text.IsLetters.upper typed', Text.asciiUpper_asciiUpper]
  case letters =>
    change (Text.rightmostWord new).IsLetters
    rwa [letters.rightmostWord]
  case ne =>
    change Text.rightmostWord new ≠ []
    rw [letters.rightmostWord, ← List.length_pos_iff]
    exact Nat.lt_of_lt_of_le (List.length_pos_iff.2 h.ne) stem.length
  case tail =>
    change Text.takeLast n (Text.rightmostWord new) <:+ _
    rw [letters.rightmostWord, text, ← tail, Text.retype stem front]
    exact Text.takeLast_suffix_retyped stem front
  case carries => exact ⟨rfl, rfl, rfl, rfl⟩
  case carries' => exact ⟨rfl, rfl, rfl, rfl⟩

end View

namespace View

theorem Capitals.dropFront {n m : Nat} {v w : View} (h : Capitals n v w)
    (room : m + n ≤ v.screen.text.length) : Capitals n (v.dropFront m) (w.dropFront m) := by
  refine ⟨?_, h.word, h.typed, h.letters, h.ne, ?_, h.carries, h.carries'⟩
  · change w.screen.text.drop m = Text.asciiUpper (v.screen.text.drop m)
    rw [h.text, Text.asciiUpper_drop]
  · have short : (Text.takeLast n v.last.word).length ≤ (v.screen.text.drop m).length := by
      rw [Text.takeLast, List.length_drop, List.length_drop]
      omega
    exact List.suffix_of_suffix_length_le h.tail (List.drop_suffix m _) short

def CarriesOn (n : Nat) (v w : View) : Prop := Awaits v w ∨ Capitals n v w

namespace CarriesOn
variable {n : Nat} {v w : View}

theorem length (h : CarriesOn n v w) : w.screen.text.length = v.screen.text.length := by
  rcases h with waits | capitals
  · rw [waits.text, waits.text']
  · rw [capitals.text, Text.length_asciiUpper]

theorem dropFront (few : n ≤ Base.keep) (h : CarriesOn n v w) {m : Nat}
    (room : m + Base.keep ≤ v.screen.text.length) : CarriesOn n (v.dropFront m) (w.dropFront m) := by
  rcases h with waits | capitals
  · rw [waits.text] at room
    simp [Base.keep] at room
  · exact .inr (capitals.dropFront (by omega))

theorem awaits (h : CarriesOn n v w) {capitalized attached : Bool}
    (last : v.last = Action.start capitalized attached) : Awaits v w := by
  refine h.resolve_right fun capitals => capitals.ne ?_
  rw [last]
  rfl

theorem capitals (h : CarriesOn n v w) (ne : v.last.word ≠ []) : Capitals n v w := by
  refine h.resolve_left fun waits => ?_
  obtain ⟨_, _, last, _⟩ := waits.last
  rw [last] at ne
  exact ne rfl

end CarriesOn
end View

def carrying (n : Nat) (few : n ≤ Base.keep) : Pairing where
  holds := View.CarriesOn n
  length h := h.length
  dropFront h room := h.dropFront few room

/-- What waits before the first word: it is typed in the given case, wherever it goes. -/
structure Context.Opens (capitals : Bool) (s typed : Text) (c : Context) : Prop where
  before : c.placement = .before
  word : c.last.word = []
  following : c.last.following = {}
  wants : ∀ joins, c.wantsUpper joins = capitals
  made : ∀ joins, c.applyOneShot s joins = Text.inCase capitals typed

namespace Context.Opens
variable {c : Context} {capitals : Bool} {s typed : Text}

theorem at_start {style : Style} (before : style.placement = .before) (capitalized attached : Bool)
    (s output : Text) :
    Opens false s (if capitalized then Text.capitalizeFirst s else s)
      ⟨style, .start capitalized attached, output⟩ := by
  refine ⟨before, rfl, rfl, fun joins => rfl, fun joins => ?_⟩
  simp [applyOneShot, wantsUpper, Action.start, Text.inCase]

theorem asked {style : Style} (before : style.placement = .before) (capitalized attached : Bool)
    (same : Text.upper s = Text.upper typed) (output : Text) :
    Opens true s typed
      ⟨style, { Action.start capitalized attached with capitalize := false, upper := true }, output⟩ := by
  refine ⟨before, rfl, rfl, fun joins => rfl, fun joins => ?_⟩
  simp [applyOneShot, wantsUpper, Action.start, Text.inCase, same]

theorem renderWord (h : c.Opens capitals s typed) (letters : typed.IsLetters) :
    c.renderWord {} s =
      .opening capitals false (if c.last.nextAttach then [] else [' ']) typed := by
  rw [renderWord_eq ⟨rfl, rfl, rfl, rfl⟩, h.made, h.wants, letters.rightmostWord_inCase, place,
    h.before]
  simp only [isAttached, Bool.false_or, Action.opening]
  split <;> rfl

theorem suffix (h : c.Opens capitals s typed) (letters : typed.IsLetters) :
    c.suffix { prevAttach := true } ⟨true, false, s⟩ = .opening capitals true [] typed := by
  have rules : c.usesOrthography ⟨true, false, s⟩ = false := by simp [usesOrthography, h.word]
  rw [suffix_eq_of_no_rules ⟨rfl, rfl, rfl, rfl⟩ rules, h.made, h.wants, h.word, List.nil_append,
    letters.rightmostWord_inCase, place, h.before]
  rfl

end Context.Opens

theorem View.Awaits.opens {v w : View} (h : v.Awaits w) {style : Style}
    (before : style.placement = .before) {s : Text} (letters : s.IsLetters) (ne : s ≠ []) :
    w.last.nextAttach = v.last.nextAttach ∧ ∃ typed : Text, typed.IsLetters ∧ typed ≠ [] ∧
      Context.Opens false s typed ⟨style, v.last, v.screen.text⟩ ∧
        Context.Opens true s typed ⟨style, w.last, w.screen.text⟩ := by
  obtain ⟨capitalized, attached, last, last'⟩ := h.last
  have typed : Text.IsLetters (if capitalized then Text.capitalizeFirst s else s) ∧
      Text.asciiUpper (if capitalized then Text.capitalizeFirst s else s) = Text.asciiUpper s := by
    cases capitalized
    · exact ⟨letters, rfl⟩
    · exact letters.capitalizeFirst
  rw [last, last']
  refine ⟨rfl, _, typed.1, fun none => ne ?_, .at_start before capitalized attached s _,
    .asked before capitalized attached ?_ _⟩
  · have upper := typed.2
    rw [none] at upper
    exact List.map_eq_nil_iff.1 upper.symm
  · rw [letters.upper, typed.1.upper, typed.2]

section resolution
variable {n : Nat} (few : n ≤ Base.keep) {style : Style} {v w : View}

theorem keeps_opening (waits : v.Awaits w) (attached : Bool) {separator typed : Text}
    (plain : Text.asciiUpper separator = separator) (letters : typed.IsLetters) (ne : typed ≠ []) :
    (carrying n few).Keeps v.last w.last [.opening false attached separator typed]
      [.opening true attached separator typed] := by
  intro v' w' h last _
  obtain ⟨_, _, start, _⟩ := waits.last
  exact .inr ((View.CarriesOn.awaits h (last.trans start)).opened attached plain letters ne)

theorem resolves_word (style : Style) (before : style.placement = .before) (waits : v.Awaits w)
    {t : Translation} {s : Text} (english : t.english = some s) (ne : s ≠ [])
    (letters : s.IsLetters) :
    ∃ a b, style.resolve v.last v.screen.text t = [.resolved a] ∧
      style.resolve w.last w.screen.text t = [.resolved b] ∧
        (carrying n few).Keeps v.last w.last [a] [b] := by
  obtain ⟨next, typed, letters', ne', opens, opens'⟩ := waits.opens before letters ne
  have made := opens.renderWord letters'
  have made' := opens'.renderWord letters'
  dsimp only at made made'
  rw [next] at made'
  rw [style.resolve_plain v.last _ english ne letters.plain, opens.following, made,
    style.resolve_plain w.last _ english ne letters.plain, opens'.following, made']
  refine ⟨_, _, rfl, rfl, keeps_opening few waits false ?_ letters' ne'⟩
  split <;> rfl

theorem keeps_rewriting (capitals : v.Capitals n w) {o : Orthography}
    (keeps : o.keepsStems n = true) (mixes : o.mixesCase = true)
    (small : ∀ r ∈ o.rules, r.template.literals.IsLetters) {s : Text} (letters : s.IsLetters) :
    (carrying n few).Keeps v.last w.last
      [.rewriting false v.last.word (o.addSuffix v.last.word s) v.screen.text]
      [.rewriting true w.last.word (o.addSuffix w.last.word s) w.screen.text] := by
  have same : Text.asciiUpper (o.addSuffix w.last.word s) =
      Text.asciiUpper (o.addSuffix v.last.word s) := by
    refine Orthography.asciiUpper_addSuffix mixes ?_ s
    rw [capitals.word, Text.asciiUpper_asciiUpper]
  obtain ⟨stem, made⟩ := Orthography.addSuffix_of_letters keeps small capitals.letters letters
  obtain ⟨stem', made'⟩ := Orthography.addSuffix_of_letters keeps small capitals.letters' letters
  have long := capitals.tail.length_le
  have long' := capitals.tail'.length_le
  intro v' w' h last last'
  have now : v'.Capitals n w' := View.CarriesOn.capitals h (last ▸ capitals.ne)
  rw [← last] at stem made long
  rw [← last'] at stem' made' long'
  rw [← last, ← last'] at same ⊢
  exact .inr (now.rewritten stem stem' same made made' long long')

theorem resolves_suffix (style : Style) (before : style.placement = .before)
    (keeps : style.orthography.keepsStems n = true) (mixes : style.orthography.mixesCase = true)
    (small : ∀ r ∈ style.orthography.rules, r.template.literals.IsLetters) {t : Translation}
    {s : Text} (english : t.english = some ('\x7b' :: '^' :: (s ++ ['\x7d']))) (ne : s ≠ [])
    (letters : s.IsLetters) : (carrying n few).Resolves style t := by
  intro v w h
  let c : Context := ⟨style, v.last, v.screen.text⟩
  let d : Context := ⟨style, w.last, w.screen.text⟩
  rcases h with waits | capitals
  · obtain ⟨-, typed, letters', ne', opens, opens'⟩ := waits.opens before letters ne
    refine ⟨[_], [_], style.resolve_suffix english ne letters opens.following v.screen.text,
      style.resolve_suffix english ne letters opens'.following w.screen.text, ?_⟩
    rw [opens.suffix letters', opens'.suffix letters']
    exact keeps_opening few waits true rfl letters' ne'
  · have rules : c.usesOrthography ⟨true, false, s⟩ = true :=
      Context.usesOrthography_of_carries capitals.carries capitals.ne letters ne
    have rules' : d.usesOrthography ⟨true, false, s⟩ = true :=
      Context.usesOrthography_of_carries capitals.carries' capitals.ne' letters ne
    have plain : c.newAction = {} := Context.newAction_of_carries capitals.carries
    have plain' : d.newAction = {} := Context.newAction_of_carries capitals.carries'
    refine ⟨[_], [_], style.resolve_suffix english ne letters plain v.screen.text,
      style.resolve_suffix english ne letters plain' w.screen.text, ?_⟩
    rw [Context.suffix_of_carries before capitals.carries rules,
      Context.suffix_of_carries before capitals.carries' rules']
    exact keeps_rewriting few capitals keeps mixes small letters

end resolution

namespace Formatter
open ServiceCommand

theorem carrying_opened {n : Nat} (few : n ≤ Base.keep) (s : FormatterSettings) (o : Orthography)
    {asking : Translation} (asks : asking.english = some "\x7b<\x7d".toList) :
    (carrying n few).Formatters (new s o) (opened s o asking) ∧
      (new s o).base.view.Awaits (opened s o asking).base.view := by
  let start := startAction s
  have base : (opened s o asking).base =
      ⟨(Base.ofStart start).view.apply { start with capitalize := false, upper := true }, none⟩ :=
    Base.add_of_braced ⟨s.spacePlacement, o⟩ rfl (m := ['<']) asks (by decide)
      (by decide : Command.ofText? ['<'] = some .upperNext) rfl
  have waits : (new s o).base.view.Awaits (opened s o asking).base.view := by
    rw [base]
    exact ⟨rfl, rfl, _, _, rfl, rfl⟩
  have bases : (carrying n few).Bases (new s o).base (opened s o asking).base :=
    ⟨.inl waits, rfl, by rw [base]⟩
  exact ⟨⟨rfl, rfl, bases, .nil _ _⟩, waits⟩

theorem carrying_word {n : Nat} (few : n ≤ Base.keep) (s : FormatterSettings)
    (before : s.spacePlacement = .before) (o : Orthography) {asking word : Translation} {w : Text}
    (asks : asking.english = some "\x7b<\x7d".toList) (english : word.english = some w)
    (ne : w ≠ []) (letters : w.IsLetters) :
    (carrying n few).Formatters ((new s o).append word) ((opened s o asking).append word) := by
  let style : Style := ⟨s.spacePlacement, o⟩
  obtain ⟨begun, -⟩ := carrying_opened few s o asks
  have start : (new s o).lastAction = Action.start s.startCapitalized s.startAttached := rfl
  have waits := View.CarriesOn.awaits (begun.view (some word.firstLiteral)) start
  obtain ⟨a, b, slots, slots', keeps⟩ := resolves_word few style before waits english ne letters
  have slots : (new s o).resolveNext word = [a].map Slot.resolved := slots
  have slots' : (opened s o asking).resolveNext word = [b].map Slot.resolved := slots'
  exact begun.append_of_keeps slots slots' keeps

/-- Capitals that are asked for once are carried on by suffixes: with them all that is shown is shown
in capitals, by the same rules. -/
theorem carried_capitals_commute (s : FormatterSettings) (before : s.spacePlacement = .before)
    {asking word : Translation} {suffixes : List Translation} {w : Text} {xs : List Text}
    (asks : asking.english = some "\x7b<\x7d".toList) (english : word.english = some w)
    (ne : w ≠ []) (letters : w.IsLetters)
    (attached : suffixes.map Translation.english =
      xs.map fun x => some ('\x7b' :: '^' :: (x ++ ['\x7d'])))
    (parts : ∀ x ∈ xs, x ≠ [] ∧ x.IsLetters) {batches batches' : List (List Translation)}
    (plain : batches.flatten = word :: suffixes)
    (capitals : batches'.flatten = asking :: word :: suffixes) :
    let f := (new s .english).run (batches.map typing)
    let g := (new s .english).run (batches'.map typing)
    g.rendered.text = Text.asciiUpper f.rendered.text ∧
      g.lastAction.word = Text.asciiUpper f.lastAction.word ∧
      Text.asciiUpper g.lastAction.text = g.lastAction.text ∧
      ∀ suffix, Orthography.english.rule? g.lastAction.word suffix =
        Orthography.english.rule? f.lastAction.word suffix := by
  intro f g
  -- no rule of English looks further back than what a base keeps when it is cut
  have few : 5 ≤ Base.keep := by decide
  let style : Style := ⟨s.spacePlacement, .english⟩
  have first := carrying_word few s before .english asks english ne letters
  have style_first : ((new s .english).append word).style = style :=
    Formatter.style_of_setup (Formatter.setup_push (new s .english) word _)
  have all : (carrying 5 few).Formatters ((word :: suffixes).foldl append (new s .english))
      ((word :: suffixes).foldl append (opened s .english asking)) := by
    refine first.foldl_append fun t mem => ?_
    have among : t.english ∈ xs.map fun x => some ('\x7b' :: '^' :: (x ++ ['\x7d'])) :=
      attached ▸ List.mem_map_of_mem mem
    obtain ⟨x, hx, english'⟩ := List.mem_map.1 among
    rw [style_first]
    obtain ⟨ne', letters'⟩ := parts x hx
    exact resolves_suffix few style before Orthography.keepsStems_english
      Orthography.mixesCase_english (fun r hr => Orthography.isLetters_literals_english hr)
      english'.symm ne' letters'
  have short : (opened s .english asking).base.view.screen.text.length ≤ Base.limit := by
    rw [(carrying_opened few s .english asks).2.text']
    exact Nat.zero_le _
  obtain ⟨v, w', views, shown, last, shown', last'⟩ :=
    (carrying 5 few).holds_run_of_formatters s .english plain capitals short all
  rw [shown, shown', last, last']
  rcases views with waiting | typed
  · obtain ⟨_, _, start, start'⟩ := waiting.last
    rw [waiting.text, waiting.text', start, start']
    exact ⟨rfl, rfl, rfl, fun _ => rfl⟩
  · refine ⟨typed.text, typed.word, typed.typed, fun suffix => ?_⟩
    refine Orthography.rule?_of_asciiUpper_eq Orthography.mixesCase_english ?_ suffix
    rw [typed.word, Text.asciiUpper_asciiUpper]

/-- What a rule brings along in small letters is typed in capitals, and the next rule goes by it. -/
theorem carried_capitals_commute_basically :
    let asking := Translation.ofEnglish "\x7b<\x7d"
    let word := Translation.ofEnglish "Basic"
    let suffixes := ["\x7b^Ly\x7d", "\x7b^er\x7d"].map Translation.ofEnglish
    let f := (new {} .english).run ([[word], suffixes].map typing)
    let g := (new {} .english).run ([[asking, word], suffixes].map typing)
    g.rendered.text = Text.asciiUpper f.rendered.text ∧
      g.lastAction.word = Text.asciiUpper f.lastAction.word ∧
      f.rendered.text = " Basicallier".toList := by
  intro asking word suffixes f g
  let written : List Text := ["Ly".toList, "er".toList]
  have letters : Text.IsLetters "Basic".toList := by decide
  have parts : ∀ x ∈ written, x ≠ [] ∧ Text.IsLetters x := by decide
  have asks : asking.english = some "\x7b<\x7d".toList := rfl
  have english : word.english = some "Basic".toList := rfl
  have attached : suffixes.map Translation.english =
      written.map fun x => some ('\x7b' :: '^' :: (x ++ ['\x7d'])) := rfl
  have plain : [[word], suffixes].flatten = word :: suffixes := rfl
  have capitals : [[asking, word], suffixes].flatten = asking :: word :: suffixes := rfl
  obtain ⟨shown, kept, -, -⟩ :=
    carried_capitals_commute {} rfl asks english (by decide) letters attached parts plain capitals
  exact ⟨shown, kept, by decide +kernel⟩

end Formatter
end Stenotype
