import Mathlib.Data.List.TakeWhile
import Stenotype.Proofs.AtomGrammar
import Stenotype.Proofs.Reseeding
import Stenotype.Proofs.Typings

/-!
# Texts written literally

With a backslash before each of its braces any text is one atom that names no command, and reading
the atom gives the text back, as what is typed and as what a lookahead before it sees. In braces of
its own it is one command, unless it ends in a backslash, which would escape the closing brace.
-/

set_option autoImplicit false

namespace Stenotype

namespace Text

theorem trimEnd_of_blank {c : Char} {s : Text} (h : isBlank c = true) :
    trimEnd (s ++ [c]) = trimEnd s := by
  simp [trimEnd, h]

theorem trimEnd_trimEnd (s : Text) : trimEnd (trimEnd s) = trimEnd s := by
  rcases endsInInk_trimEnd s with none | ink
  · rw [none]
    rfl
  · obtain ⟨r, c, whole, dark⟩ := endsInInk_iff.1 ink
    rw [whole]
    exact trimEnd_of_ink dark

theorem trim_trim (s : Text) : trim (trim s) = trim s := by
  have start : trimStart (trim s) = trim s := by
    rcases text : trim s with _ | ⟨c, r⟩
    · rfl
    · exact trimStart_of_ink (ink_head?_trim s c (by simp [text]))
  rw [trim, start]
  exact trimEnd_trimEnd (trimStart s)

theorem trim_ne_nil {s : Text} (ink : isAllBlank s = false) : trim s ≠ [] := by
  intro none
  rw [trim, trimEnd, List.reverse_eq_nil_iff, List.dropWhile_eq_nil_iff] at none
  rw [isAllBlank, List.all_eq_false] at ink
  obtain ⟨c, mem, dark⟩ := ink
  rw [← List.takeWhile_append_dropWhile (p := isBlank) (l := s)] at mem
  rcases List.mem_append.1 mem with front | back
  · exact dark (List.all_eq_true.1 List.all_takeWhile c front)
  · exact dark (none c (List.mem_reverse.2 back))

end Text

namespace Atom

def escapeBrace (brace : Char) : Text → Text
  | [] => []
  | c :: r => if c = brace then '\\' :: c :: escapeBrace brace r else c :: escapeBrace brace r

/-- `s` with a backslash before every brace. -/
def escape : Text → Text
  | [] => []
  | c :: r => if isBrace c then '\\' :: c :: escape r else c :: escape r

theorem escape_cons_of_brace {c : Char} (brace : isBrace c = true) (r : Text) :
    escape (c :: r) = '\\' :: c :: escape r := by
  rw [escape, if_pos brace]

theorem escape_cons_of_text {c : Char} (text : isBrace c = false) (r : Text) :
    escape (c :: r) = c :: escape r := by
  rw [escape, if_neg (by simp [text])]

theorem head?_escapeBrace {brace : Char} (other : brace ≠ '\\') (s : Text) :
    (escapeBrace brace s).head? ≠ some brace := by
  cases s with
  | nil => nofun
  | cons c r =>
    by_cases same : c = brace
    · simp [escapeBrace, same, other.symm]
    · simp [escapeBrace, same]

theorem unescapeBrace_cons {brace c : Char} {s : Text} (next : s.head? ≠ some brace) :
    unescapeBrace brace (c :: s) = c :: unescapeBrace brace s := by
  cases s with
  | nil => rw [unescapeBrace.eq_3 _ _ _ (by simp)]
  | cons d r =>
    by_cases slash : c = '\\'
    · rw [slash, unescapeBrace, if_neg (by simpa using next)]
    · rw [unescapeBrace.eq_3 _ _ _ (by simp [slash])]

theorem unescapeBrace_escapeBrace {brace : Char} (other : brace ≠ '\\') (s : Text) :
    unescapeBrace brace (escapeBrace brace s) = s := by
  induction s with
  | nil => rfl
  | cons c r ih =>
    by_cases same : c = brace
    · rw [escapeBrace, if_pos same, unescapeBrace, if_pos same, ih, same]
    · rw [escapeBrace, if_neg same, unescapeBrace_cons (head?_escapeBrace other r), ih]

theorem escapeBrace_escapeBrace (s : Text) : escapeBrace '\x7b' (escapeBrace '\x7d' s) = escape s := by
  induction s with
  | nil => rfl
  | cons c r ih =>
    by_cases closing : c = '\x7d'
    · simp [closing, escapeBrace, escape, isBrace, ih]
    · by_cases opening : c = '\x7b' <;> simp [closing, opening, escapeBrace, escape, isBrace, ih]

theorem unescape_escape (s : Text) : unescape (escape s) = s := by
  rw [unescape, ← escapeBrace_escapeBrace, unescapeBrace_escapeBrace (by decide),
    unescapeBrace_escapeBrace (by decide)]

theorem bracesEscaped_escape (s : Text) : BracesEscaped (escape s) := by
  induction s with
  | nil => exact .nil
  | cons c r ih =>
    cases brace : isBrace c with
    | true => exact escape_cons_of_brace brace r ▸ ih.cons_escaped c
    | false => exact escape_cons_of_text brace r ▸ ih.cons brace

theorem escape_append (s t : Text) : escape (s ++ t) = escape s ++ escape t := by
  induction s with
  | nil => rfl
  | cons c r ih => cases brace : isBrace c <;> simp [escape, brace, ih]

theorem getLast?_escape (s : Text) : (escape s).getLast? = s.getLast? := by
  rcases List.eq_nil_or_concat s with rfl | ⟨r, c, rfl⟩
  · rfl
  · cases brace : isBrace c <;> simp [escape_append, escape, brace]

theorem isText_escape {s : Text} (ne : s ≠ []) : IsText (escape s) := by
  refine ⟨fun none => ne ?_, bracesEscaped_escape s⟩
  rw [← unescape_escape s, none]
  rfl

theorem meta?_escape (s : Text) : meta? (escape s) = none := by
  by_cases ne : s = []
  · rw [ne]
    rfl
  · exact meta?_eq_none (head?_of_isText (isText_escape ne))

theorem isCommand_escape {m : Text} (last : m.getLast? ≠ some '\\') :
    IsCommand ('\x7b' :: (escape m ++ ['\x7d'])) :=
  isCommand_braced.2 ⟨bracesEscaped_escape m, by rwa [getLast?_escape]⟩

theorem isBrace_of_isBlank {c : Char} (blank : Text.isBlank c = true) : isBrace c = false := by
  cases brace : isBrace c with
  | false => rfl
  | true =>
    simp only [isBrace, Bool.or_eq_true, decide_eq_true_eq] at brace
    rcases brace with rfl | rfl <;> cases blank

theorem trimStart_escape (s : Text) :
    Text.trimStart (escape s) = escape (Text.trimStart s) := by
  induction s with
  | nil => rfl
  | cons c r ih =>
    cases blank : Text.isBlank c with
    | true =>
      rw [escape_cons_of_text (isBrace_of_isBlank blank)]
      simpa [Text.trimStart, blank] using ih
    | false =>
      rw [Text.trimStart_of_ink blank]
      cases brace : isBrace c with
      | true =>
        rw [escape_cons_of_brace brace]
        exact Text.trimStart_of_ink (by decide)
      | false =>
        rw [escape_cons_of_text brace]
        exact Text.trimStart_of_ink blank

theorem trimEnd_escape (s : Text) : Text.trimEnd (escape s) = escape (Text.trimEnd s) := by
  induction s using List.reverseRecOn with
  | nil => rfl
  | append_singleton r c ih =>
    rw [escape_append]
    cases blank : Text.isBlank c with
    | true =>
      rw [escape_cons_of_text (isBrace_of_isBlank blank), escape, Text.trimEnd_of_blank blank,
        Text.trimEnd_of_blank blank, ih]
    | false =>
      rw [Text.trimEnd_of_ink blank, escape_append]
      cases brace : isBrace c with
      | true =>
        rw [escape_cons_of_brace brace, List.append_cons, escape]
        exact Text.trimEnd_of_ink blank
      | false =>
        rw [escape_cons_of_text brace, escape]
        exact Text.trimEnd_of_ink blank

theorem trim_escape (s : Text) : Text.trim (escape s) = escape (Text.trim s) := by
  rw [Text.trim, trimStart_escape, trimEnd_escape, Text.trim]

theorem trimmed_escape {s : Text} (ink : Text.isAllBlank s = false) :
    trimmed (escape s) = [escape (Text.trim s)] := by
  have ne : s ≠ [] := by
    rintro rfl
    cases ink
  have left : (escape (Text.trim s)).isEmpty = false :=
    List.isEmpty_eq_false_iff.2 (isText_escape (Text.trim_ne_nil ink)).1
  rw [trimmed, split_of_isText (isText_escape ne), List.map_singleton, trim_escape]
  simp [left]

theorem literal_escape (s : Text) : literal (escape s) = Text.trim s := by
  simp only [literal, trim_escape, meta?_escape, Option.getD_none, unescape_escape]

end Atom

theorem Translation.firstLiteral_escape {t : Translation} {s : Text}
    (english : t.english = some (Atom.escape s)) (ink : Text.isAllBlank s = false) :
    t.firstLiteral = Text.trim s := by
  simp only [firstLiteral, english, Atom.trimmed_escape ink, List.head?_cons, Option.map_some,
    Option.getD_some, Atom.literal_escape, Text.trim_trim]

theorem Style.resolve_escape (style : Style) {last : Action} (quiet : last.IsNeutral)
    (output : Text) {t : Translation} {s : Text} (english : t.english = some (Atom.escape s))
    (ink : Text.isAllBlank s = false) :
    style.resolve last output t =
      [.resolved { Action.ofWord style.placement (Text.trim s) with
        word := Text.rightmostWord (Text.trim s) }] := by
  have typed := Context.renderWord_of_neutral (c := ⟨style, last, output⟩) quiet (Text.trim s)
  simp only [resolve, english, Atom.trimmed_escape ink, resolveAtoms_singleton, Context.resolveAtom,
    Atom.meta?_escape, Atom.unescape_escape, Context.typeText, typed]

namespace Formatter

theorem rendered_escape (o : Orthography) {t : Translation} {s : Text}
    (english : t.english = some (Atom.escape s)) (ink : Text.isAllBlank s = false) :
    ((new {} o).format [] [t] none).1.rendered = ⟨' ' :: Text.trim s, []⟩ := by
  have found : (new {} o).prepare [] none = new {} o := prepare_eq (endsWith_nil _)
  have added := append_of_room (f := new {} o) t (capacity_new_pos {} o)
  have slots := Style.resolve_escape (new {} o).style Action.isNeutral_start [] english ink
  have resolved : (new {} o).resolveNext t = _ := slots
  rw [format_nil, found, List.foldl_cons, List.foldl_nil, added, resolved]
  rw [rendered_eq_shown rfl]
  rfl

end Formatter

namespace Atom

/-- Every text can be written as one atom that is read as the text, and every text that does not end
in a backslash as one command. -/
theorem escape_written_literally (o : Orthography) (s : Text) :
    unescape (escape s) = s ∧
      (s ≠ [] → split (escape s) = [escape s] ∧ meta? (escape s) = none) ∧
      (Text.isAllBlank s = false → ∀ t : Translation, t.english = some (escape s) →
        ((Formatter.new {} o).format [] [t] none).1.rendered = ⟨' ' :: Text.trim s, []⟩ ∧
          t.firstLiteral = Text.trim s) ∧
      (s.getLast? ≠ some '\\' →
        split ('\x7b' :: (escape s ++ ['\x7d'])) = ['\x7b' :: (escape s ++ ['\x7d'])] ∧
          (meta? ('\x7b' :: (escape s ++ ['\x7d']))).map unescape = some s) := by
  refine ⟨unescape_escape s, fun ne => ?_, fun ink t english => ?_, fun last => ?_⟩
  · exact ⟨split_of_isText (isText_escape ne), meta?_escape s⟩
  · exact ⟨Formatter.rendered_escape o english ink, Translation.firstLiteral_escape english ink⟩
  · refine ⟨split_of_isCommand (isCommand_escape last), ?_⟩
    rw [meta?_braced, Option.map_some, unescape_escape]

/-- Braces around a text and a backslash in it are typed as they stand. -/
theorem escape_written_literally_set :
    let s := " \x7bx\\\x7d ".toList
    let t := Translation.ofOutlines [['S']] (some (escape s))
    escape s = " \\\x7bx\\\\\x7d ".toList ∧
      ((Formatter.new {} .english).format [] [t] none).1.rendered =
        ⟨" \x7bx\\\x7d".toList, []⟩ ∧
      (meta? ('\x7b' :: (escape s ++ ['\x7d']))).map unescape = some s := by
  intro s t
  have ink : Text.isAllBlank s = false := by decide
  have last : s.getLast? ≠ some '\\' := by decide
  obtain ⟨_, _, typed, command⟩ := escape_written_literally .english s
  exact ⟨by decide, (typed ink t rfl).1, (command last).2⟩

end Atom
end Stenotype
