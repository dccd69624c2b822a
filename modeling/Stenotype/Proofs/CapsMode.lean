import Stenotype.Proofs.ModeRuns
import Stenotype.Proofs.Spans

/-!
# The mode of capitals

On ASCII the mode puts one capital for every letter, so every text keeps its length and what
suffixes take back is found by the same count. The last word stays as it is written without the
mode, and with it the suffix rules.
-/

set_option autoImplicit false

namespace Stenotype

namespace Text

theorem isAscii_of_isLower {c : Char} (small : c.isLower = true) : isAscii c = true := by
  have most : c.toNat ≤ 122 := of_decide_eq_true (Bool.and_eq_true_iff.1 small).2
  exact decide_eq_true (by omega)

theorem isAscii_toUpper {c : Char} (ascii : isAscii c = true) : isAscii c.toUpper = true := by
  have all : ∀ n < 0x80, isAscii (Char.ofNat n).toUpper = true := by decide +kernel
  exact forall_ascii (P := fun c => isAscii c.toUpper = true) all ascii

theorem upperChar_of_ascii {c : Char} (ascii : isAscii c = true) : upperChar c = [c.toUpper] :=
  if_pos ascii

theorem asciiUpper_eq_flatMap (s : Text) : asciiUpper s = s.flatMap fun c => [c.toUpper] :=
  List.map_eq_flatMap

theorem upper_of_ascii {s : Text} (ascii : ∀ c ∈ s, isAscii c = true) : upper s = asciiUpper s := by
  rw [upper, asciiUpper_eq_flatMap]
  exact List.flatMap_congr fun c mem => upperChar_of_ascii (ascii c mem)

end Text

def Translation.isAscii (t : Translation) : Bool := (t.english.getD t.outline).all Text.isAscii

namespace Repaint

def caps : Repaint where
  paint c := [c.toUpper]
  case := some .upper
  spaceChar := [' ']
  fits c := Text.isAscii c = true
  space := by decide
  modes s ascii attached := by
    rw [Text.substitute_self, LetterCase.apply, Text.upper_of_ascii ascii,
      Text.asciiUpper_eq_flatMap]
  fits_upperChar c ascii d mem := by
    rw [Text.upperChar_of_ascii ascii, List.mem_singleton] at mem
    rw [mem]
    exact Text.isAscii_toUpper ascii

namespace caps

theorem text_eq (s : Text) : caps.text s = Text.asciiUpper s :=
  (Text.asciiUpper_eq_flatMap s).symm

theorem opens {s : Text} (ascii : ∀ c ∈ s, Text.isAscii c = true) : caps.Opens s := by
  intro c first r
  have small := ascii c (List.mem_of_mem_head? first)
  have capital := Text.upperChar_of_ascii (Text.isAscii_toUpper small)
  change Text.upperChar c.toUpper ++ r = caps.text (Text.upperChar c) ++ r
  rw [capital, Text.upperChar_of_ascii small]
  rfl

theorem admits {k : Typing} (ascii : ∀ c ∈ k.text, Text.isAscii c = true) (written : k.IsWritten) :
    caps.Admits k := by
  cases k with
  | plain s => exact ⟨ascii, opens ascii⟩
  | glued s => exact ⟨ascii, opens ascii⟩
  | stop mark =>
    have marks : ∀ mark ∈ [['.'], ['!'], ['?']], Text.asciiUpper mark = mark := by decide
    exact (text_eq mark).trans (marks mark written)
  | comma mark =>
    have marks : ∀ mark ∈ [[','], [':'], [';']], Text.asciiUpper mark = mark := by decide
    exact (text_eq mark).trans (marks mark written)
  | affix s =>
    have content : ∀ c ∈ (Affix.ofText s).content, Text.isAscii c = true := fun c mem =>
      ascii c (Affix.content_subset s mem)
    exact ⟨content, opens content⟩

theorem closed_english : caps.Closed .english := by
  have literals (r) (h : r ∈ Orthography.english.rules) :
      ∀ c ∈ r.template.literals, Text.isAscii c = true := by
    exact fun c mem => Text.isAscii_of_isLower (Orthography.literals_english h c mem)
  exact fun word suffix => Orthography.mem_addSuffix literals ⟨by decide, by decide⟩

end caps
end Repaint

namespace Formatter
open ServiceCommand

/-- The mode of capitals set ahead of ASCII text shows in capitals what is shown without it. -/
theorem capitals_mode_uppercases (s : FormatterSettings) {mode : Translation}
    (caps : mode.english = some "\x7bMODE:CAPS\x7d".toList) {ts : List Translation}
    (typed : ∀ t ∈ ts, t.onlyTypes = true ∧ t.isAscii = true)
    {batches batches' : List (List Translation)} (plain : batches.flatten = ts)
    (opened : batches'.flatten = mode :: ts) :
    ((new s .english).run (batches'.map typing)).rendered.text =
      Text.asciiUpper ((new s .english).run (batches.map typing)).rendered.text := by
  have single (c : Char) : (Repaint.caps.paint c).length = 1 := rfl
  have braced : mode.english = some ('\x7b' :: ("MODE:CAPS".toList ++ ['\x7d'])) := caps
  have bare : Atom.IsBare "MODE:CAPS".toList := by decide
  have named : Command.ofText? "MODE:CAPS".toList = some (.mode "CAPS".toList) := by decide
  obtain ⟨tail, shows⟩ := Repaint.caps.shows_opened s .english braced bare named rfl
  let style : Style := ⟨s.spacePlacement, .english⟩
  have closed : Repaint.caps.Closed style.orthography := Repaint.caps.closed_english
  have resolves (t) (mem : t ∈ ts) : (Repaint.caps.pairing single style.placement).Resolves style t := by
    obtain ⟨types, ascii⟩ := typed t mem
    refine Repaint.resolves single closed types fun k among => ?_
    obtain ⟨part, written⟩ := Translation.of_mem_typings among
    exact Repaint.caps.admits (fun c here => List.all_eq_true.1 ascii c (part here)) written
  obtain ⟨v, w, views, shown, -, shown', -⟩ :=
    Pairing.holds_run_typing _ s .english plain opened ⟨shows, rfl, tail⟩ resolves
  rw [shown, shown', ← Repaint.caps.text_eq]
  exact views.text

/-- The suffix rule finds the word as it is without the mode, and glue and the mark's capital are
as they were. -/
theorem capitals_mode_uppercases_basically :
    let mode := Translation.ofEnglish "\x7bMODE:CAPS\x7d"
    let ts := ["basic", "\x7b^ly\x7d\x7b,\x7d", " ", "\x7b&a\x7d\x7b&b\x7d\x7b.\x7dnext"].map
      Translation.ofEnglish
    let f := (new {} .english).run [typing ts]
    let g := (new {} .english).run [typing [mode], typing ts]
    g.rendered.text = Text.asciiUpper f.rendered.text ∧
      f.rendered.text = " basically, ab. Next".toList := by
  intro mode ts f g
  have caps : mode.english = some "\x7bMODE:CAPS\x7d".toList := rfl
  have typed : ∀ t ∈ ts, t.onlyTypes = true ∧ t.isAscii = true := by decide +kernel
  have plain : [ts].flatten = ts := List.append_nil ts
  have opened : [[mode], ts].flatten = mode :: ts := congrArg (mode :: ·) plain
  have capitals := capitals_mode_uppercases {} caps typed plain opened
  exact ⟨capitals, by decide +kernel⟩

end Formatter
end Stenotype
