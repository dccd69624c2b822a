import Mathlib
import Stenotype.Proofs.Spans

/-!
# Patterns that do not tell case

A set that has the capital of every small letter in it, and none of the others, does not tell case.
An expression of such sets finds in a text that is put in capitals what it finds in the text itself,
put in capitals. So the rules that go by them join a word and a suffix alike however these are
written, as far as capitals and small letters go.
-/

set_option autoImplicit false

namespace Stenotype

namespace Text

theorem apply_toUpper {α : Type} {f : Char → α}
    (letters : ∀ n < 26, f (Char.ofNat (0x41 + n)) = f (Char.ofNat (0x61 + n))) (c : Char) :
    f c.toUpper = f c := by
  cases small : c.isLower with
  | false => rw [Char.toUpper_eq_of_not_isLower (ne_true_of_eq_false small)]
  | true =>
    obtain ⟨least, most⟩ := Bool.and_eq_true_iff.1 small
    have least : 0x61 ≤ c.toNat := of_decide_eq_true least
    have most : c.toNat ≤ 0x7a := of_decide_eq_true most
    have capitals : ∀ n < 26, (Char.ofNat (0x61 + n)).toUpper = Char.ofNat (0x41 + n) := by decide
    have here : c = Char.ofNat (0x61 + (c.toNat - 0x61)) := by
      rw [Nat.add_sub_cancel' least, Char.ofNat_toNat]
    rw [here, capitals _ (by omega), letters _ (by omega)]

theorem variants_toUpper (c : Char) : variants c.toUpper = variants c :=
  apply_toUpper (by decide) c

@[simp] theorem length_asciiUpper (s : Text) : (asciiUpper s).length = s.length := List.length_map _

@[simp] theorem asciiUpper_append (s t : Text) :
    asciiUpper (s ++ t) = asciiUpper s ++ asciiUpper t := List.map_append

@[simp] theorem asciiUpper_asciiUpper (s : Text) : asciiUpper (asciiUpper s) = asciiUpper s := by
  simp [asciiUpper, Function.comp_def]

end Text

namespace Pattern

namespace CharSet

/-- With every small letter the set has its capital, and the other way round. -/
def mixesCase : CharSet → Bool
  | ranges r =>
    (List.range 26).all fun n => r.contains (Char.ofNat (0x41 + n)) == r.contains (Char.ofNat (0x61 + n))
  | compl s => s.mixesCase
  | union s t => s.mixesCase && t.mixesCase
  | inter s t => s.mixesCase && t.mixesCase
  | anyCase _ => true

theorem mem_toUpper {s : CharSet} (mixes : s.mixesCase = true) (c : Char) :
    s.mem c.toUpper = s.mem c := by
  induction s with
  | ranges r =>
    refine Text.apply_toUpper (f := (ranges r).mem) (fun n small => ?_) c
    exact eq_of_beq (List.all_eq_true.1 mixes n (List.mem_range.2 small))
  | compl s ih => rw [mem_compl, mem_compl, ih mixes]
  | union s t ihs iht =>
    obtain ⟨first, second⟩ := Bool.and_eq_true_iff.1 mixes
    rw [mem_union, mem_union, ihs first, iht second]
  | inter s t ihs iht =>
    obtain ⟨first, second⟩ := Bool.and_eq_true_iff.1 mixes
    rw [mem_inter, mem_inter, ihs first, iht second]
  | anyCase s _ => rw [mem, mem, Text.variants_toUpper]

end CharSet

namespace Cursor

def upper (c : Cursor) : Cursor :=
  ⟨Text.asciiUpper c.before, Text.asciiUpper c.after, c.groups.map (Prod.map id Text.asciiUpper)⟩

theorem length_after_upper (c : Cursor) : c.upper.after.length = c.after.length :=
  Text.length_asciiUpper _

theorem record_upper (n : Nat) (c d : Cursor) : c.upper.record n d.upper = (c.record n d).upper := by
  simp [record, upper, span, Text.asciiUpper, List.map_take]

theorem group?_upper (c : Cursor) (n : Nat) :
    c.upper.group? n = (c.group? n).map Text.asciiUpper := by
  rw [group?, group?, upper]
  induction c.groups with
  | nil => rfl
  | cons g gs ih =>
    obtain ⟨m, t⟩ := g
    simp only [List.map_cons, Prod.map, id_eq, List.lookup_cons, ih]
    cases n == m <;> rfl

theorem head?_asciiUpper (s : Text) : (Text.asciiUpper s).head? = s.head?.map Char.toUpper :=
  List.head?_map

theorem wordBefore_upper {w : CharSet} (mixes : w.mixesCase = true) (c : Cursor) :
    c.upper.wordBefore w = c.wordBefore w := by
  rw [wordBefore, upper, head?_asciiUpper, Option.map_map, wordBefore]
  congr 2
  exact funext fun x => CharSet.mem_toUpper mixes x

theorem wordAfter_upper {w : CharSet} (mixes : w.mixesCase = true) (c : Cursor) :
    c.upper.wordAfter w = c.wordAfter w := by
  rw [wordAfter, upper, head?_asciiUpper, Option.map_map, wordAfter]
  congr 2
  exact funext fun x => CharSet.mem_toUpper mixes x

end Cursor

namespace Anchor

def mixesCase : Anchor → Bool
  | wordEdge w => w.mixesCase
  | notWordEdge w => w.mixesCase
  | wordStart w => w.mixesCase
  | wordEnd w => w.mixesCase
  | wordStartHalf w => w.mixesCase
  | wordEndHalf w => w.mixesCase
  | _ => true

theorem head?_asciiUpper_beq (mark : Char) (s : Text)
    (letters : ∀ n < 26, (some (Char.ofNat (0x41 + n)) == some mark) =
      (some (Char.ofNat (0x61 + n)) == some mark)) :
    ((Text.asciiUpper s).head? == some mark) = (s.head? == some mark) := by
  cases s with
  | nil => rfl
  | cons c r => exact Text.apply_toUpper (f := fun c => some c == some mark) letters c

theorem holds_upper {a : Anchor} (mixes : a.mixesCase = true) (c : Cursor) :
    a.holds c.upper = a.holds c := by
  have before := head?_asciiUpper_beq '\n' c.before (by decide)
  have before' := head?_asciiUpper_beq '\r' c.before (by decide)
  have after := head?_asciiUpper_beq '\n' c.after (by decide)
  have after' := head?_asciiUpper_beq '\r' c.after (by decide)
  have first : (Text.asciiUpper c.before).isEmpty = c.before.isEmpty := List.isEmpty_map
  have last : (Text.asciiUpper c.after).isEmpty = c.after.isEmpty := List.isEmpty_map
  cases a with
  | textStart => exact first
  | textEnd => exact last
  | lineStart => simp only [holds, Cursor.upper, before, first]
  | lineEnd => simp only [holds, Cursor.upper, after, last]
  | crlfLineStart => simp only [holds, Cursor.upper, bne, before, before', after, first]
  | crlfLineEnd => simp only [holds, Cursor.upper, bne, before', after, after', last]
  | wordEdge w => simp only [holds, Cursor.wordBefore_upper mixes, Cursor.wordAfter_upper mixes]
  | notWordEdge w => simp only [holds, Cursor.wordBefore_upper mixes, Cursor.wordAfter_upper mixes]
  | wordStart w => simp only [holds, Cursor.wordBefore_upper mixes, Cursor.wordAfter_upper mixes]
  | wordEnd w => simp only [holds, Cursor.wordBefore_upper mixes, Cursor.wordAfter_upper mixes]
  | wordStartHalf w => simp only [holds, Cursor.wordBefore_upper mixes]
  | wordEndHalf w => simp only [holds, Cursor.wordAfter_upper mixes]

end Anchor

namespace Regex

def mixesCase : Regex → Bool
  | empty => true
  | char s => s.mixesCase
  | anchor a => a.mixesCase
  | seq r s => r.mixesCase && s.mixesCase
  | alt r s => r.mixesCase && s.mixesCase
  | group _ r => r.mixesCase
  | rep r _ _ _ => r.mixesCase

/-- In capitals the second round gives what the first gives, if so do their continuations. -/
def Mirrors {α β : Type} (f : α → β) (round : Round α) (round' : Round β) : Prop :=
  ∀ c k k', (∀ d : Cursor, k' d.upper = (k d).map f) → round' c.upper k' = (round c k).map f

section rounds
variable {α β : Type} {f : α → β} {round : Round α} {round' : Round β}

theorem map_orElse (a : Option α) (b : Unit → Option α) :
    (a.orElse b).map f = (a.map f).orElse fun _ => (b ()).map f := by
  cases a <;> rfl

theorem map_attempt (greedy : Bool) (more stop : Unit → Option α) :
    (attempt greedy more stop).map f =
      attempt greedy (fun _ => (more ()).map f) (fun _ => (stop ()).map f) := by
  cases greedy
  · exact map_orElse _ _
  · exact map_orElse _ _

theorem mirrors_exactly (h : Mirrors f round round') (n : Nat) :
    Mirrors f (exactly round n) (exactly round' n) := by
  induction n with
  | zero => exact fun c k k' same => same c
  | succ n ih => exact fun c k k' same => h c _ _ fun d => ih d k k' same

theorem mirrors_upTo (h : Mirrors f round round') (greedy : Bool) (n : Nat) :
    Mirrors f (upTo round greedy n) (upTo round' greedy n) := by
  induction n with
  | zero => exact fun c k k' same => same c
  | succ n ih =>
    intro c k k' same
    rw [upTo, upTo, map_attempt, same c, h c _ _ fun d => ih d k k' same]

theorem map_guard (c d : Cursor) {stop more : Option α} {stop' more' : Option β}
    (stops : stop' = stop.map f) (goesOn : more' = more.map f) :
    (if d.upper.after.length < c.upper.after.length then more' else stop') =
      (if d.after.length < c.after.length then more else stop).map f := by
  rw [Cursor.length_after_upper, Cursor.length_after_upper, stops, goesOn]
  split <;> rfl

theorem mirrors_further (h : Mirrors f round round') (greedy : Bool) (n : Nat) :
    Mirrors f (further round greedy n) (further round' greedy n) := by
  induction n with
  | zero => exact fun c k k' same => same c
  | succ n ih =>
    intro c k k' same
    have stops : (none : Option β) = (none : Option α).map f := rfl
    have more (d : Cursor) := map_guard c d stops (ih d k k' same)
    rw [further, further, map_attempt, same c, h c _ _ more]

theorem mirrors_oneOrMore (h : Mirrors f round round') (greedy : Bool) :
    Mirrors f (oneOrMore round greedy) (oneOrMore round' greedy) := by
  intro c k k' same
  refine h c _ _ fun d => map_guard c d (same d) ?_
  rw [Cursor.length_after_upper]
  exact mirrors_further h greedy _ d k k' same

theorem mirrors_rounds (h : Mirrors f round round') (least : Nat) (most : Option Nat)
    (greedy : Bool) :
    Mirrors f (rounds round least most greedy) (rounds round' least most greedy) := by
  intro c k k' same
  cases most with
  | some m => exact mirrors_exactly h least c _ _ fun d => mirrors_upTo h greedy _ d k k' same
  | none =>
    cases least with
    | zero => rw [rounds, rounds, map_attempt, same c, mirrors_oneOrMore h greedy c k k' same]
    | succ n => exact mirrors_exactly h n c _ _ fun d => mirrors_oneOrMore h greedy d k k' same

end rounds

theorem mirrors_run {α β : Type} (f : α → β) {r : Regex} (mixes : r.mixesCase = true) :
    Mirrors f r.run r.run := by
  induction r with
  | empty => exact fun c k k' same => same c
  | char s =>
    rintro ⟨before, after, groups⟩ k k' same
    cases after with
    | nil => rfl
    | cons x r =>
      change (if s.mem x.toUpper = true then k' _ else none) = (if s.mem x = true then k _ else none).map f
      rw [CharSet.mem_toUpper mixes]
      split
      · exact same ⟨x :: before, r, groups⟩
      · rfl
  | anchor a =>
    intro c k k' same
    simp only [run, Anchor.holds_upper mixes]
    split
    · exact same c
    · rfl
  | seq r s ihr ihs =>
    obtain ⟨first, second⟩ := Bool.and_eq_true_iff.1 mixes
    exact fun c k k' same => ihr first c _ _ fun d => ihs second d k k' same
  | alt r s ihr ihs =>
    obtain ⟨first, second⟩ := Bool.and_eq_true_iff.1 mixes
    intro c k k' same
    simp only [run]
    rw [map_orElse, ihr first c k k' same, ihs second c k k' same]
  | group n r ih =>
    exact fun c k k' same => ih mixes c _ _ fun d => by rw [Cursor.record_upper, same]
  | rep r least most greedy ih => exact mirrors_rounds (ih mixes) least most greedy

variable {r : Regex}

theorem matchAt_upper (mixes : r.mixesCase = true) (c : Cursor) :
    r.matchAt c.upper = (r.matchAt c).map Cursor.upper :=
  mirrors_run Cursor.upper (r := group 0 r) mixes c some some fun _ => rfl

theorem searchFrom_upper (mixes : r.mixesCase = true) (before s : Text) :
    r.searchFrom (Text.asciiUpper before) (Text.asciiUpper s) =
      (r.searchFrom before s).map Cursor.upper := by
  induction s generalizing before with
  | nil => exact matchAt_upper mixes ⟨before, [], []⟩
  | cons a s ih =>
    have here := matchAt_upper mixes ⟨before, a :: s, []⟩
    have later := ih (a :: before)
    simp only [Cursor.upper, Text.asciiUpper, List.map_cons, List.map_nil] at here later ⊢
    rw [searchFrom, here, later, searchFrom]
    cases r.matchAt ⟨before, a :: s, []⟩ <;> rfl

theorem search_upper (mixes : r.mixesCase = true) (s : Text) :
    r.search (Text.asciiUpper s) = (r.search s).map Cursor.upper := searchFrom_upper mixes [] s

end Regex

theorem asciiUpper_expand {g g' : Text → Text} (t : Template)
    (same : ∀ name, Text.asciiUpper (g' name) = Text.asciiUpper (g name)) :
    Text.asciiUpper (t.expand g') = Text.asciiUpper (t.expand g) := by
  rw [Template.expand, Template.expand, Text.asciiUpper, Text.asciiUpper, List.map_flatMap,
    List.map_flatMap]
  refine List.flatMap_congr fun part _ => ?_
  cases part with
  | literal c => rfl
  | group name => exact same name

theorem groupText_upper (p : Pattern) (d : Cursor) (name : Text) :
    p.groupText d.upper name = Text.asciiUpper (p.groupText d name) := by
  have numbered : ∃ n : Option Nat, ∀ e : Cursor, p.groupText e name = (n.bind e.group?).getD [] :=
    ⟨_, fun _ => rfl⟩
  obtain ⟨n, text⟩ := numbered
  rw [text, text]
  cases n with
  | none => rfl
  | some n =>
    rw [Option.bind_some, Option.bind_some, Cursor.group?_upper]
    cases d.group? n <;> rfl

theorem expandMatch?_upper {p : Pattern} (mixes : p.program.regex.mixesCase = true) (t : Template)
    (s : Text) : (p.expandMatch? t (Text.asciiUpper s)).map Text.asciiUpper =
      (p.expandMatch? t s).map Text.asciiUpper := by
  rw [expandMatch?, expandMatch?, Regex.search_upper mixes]
  cases p.program.regex.search s with
  | none => rfl
  | some d =>
    refine congrArg some (asciiUpper_expand t fun name => ?_)
    rw [groupText_upper, Text.asciiUpper_asciiUpper]

end Pattern

namespace SuffixRule

theorem join?_of_asciiUpper_eq {r : SuffixRule} (mixes : r.pattern.program.regex.mixesCase = true)
    {word word' suffix suffix' : Text} (same : Text.asciiUpper word' = Text.asciiUpper word)
    (same' : Text.asciiUpper suffix' = Text.asciiUpper suffix) :
    (r.join? word' suffix').map Text.asciiUpper = (r.join? word suffix).map Text.asciiUpper := by
  have candidates : Text.asciiUpper (candidate word' suffix') =
      Text.asciiUpper (candidate word suffix) := by
    simp only [candidate, Text.asciiUpper_append, same, same']
  rw [join?, ← Pattern.expandMatch?_upper mixes, candidates, Pattern.expandMatch?_upper mixes, join?]

end SuffixRule

namespace Orthography

def mixesCase (o : Orthography) : Bool := o.rules.all fun r => r.pattern.program.regex.mixesCase

variable {o : Orthography}

def rule? (o : Orthography) (word suffix : Text) : Option SuffixRule :=
  o.rules.find? fun r => (r.join? word suffix).isSome

theorem addSuffix_eq (o : Orthography) (word suffix : Text) :
    o.addSuffix word suffix =
      ((o.rule? word suffix).bind fun r => r.join? word suffix).getD (word ++ suffix) := by
  rw [addSuffix, rule?]
  congr 1
  induction o.rules with
  | nil => rfl
  | cons r rs ih =>
    rw [List.findSome?_cons, List.find?_cons]
    cases joined : r.join? word suffix with
    | none => exact ih
    | some new => exact joined.symm

theorem rule?_eq_some {word suffix : Text} {r : SuffixRule} (found : o.rule? word suffix = some r) :
    r ∈ o.rules ∧ ∃ new, r.join? word suffix = some new := by
  have joins := List.find?_some found
  exact ⟨List.mem_of_find?_eq_some found, Option.isSome_iff_exists.1 joins⟩

theorem rule?_of_asciiUpper_eq (mixes : o.mixesCase = true) {word word' : Text}
    (same : Text.asciiUpper word' = Text.asciiUpper word) (suffix : Text) :
    o.rule? word' suffix = o.rule? word suffix := by
  refine List.find?_congr fun r hr => ?_
  have joined := SuffixRule.join?_of_asciiUpper_eq (List.all_eq_true.1 mixes r hr) same
    (rfl : Text.asciiUpper suffix = _)
  simpa using congrArg Option.isSome joined

theorem asciiUpper_addSuffix (mixes : o.mixesCase = true) {word word' : Text}
    (same : Text.asciiUpper word' = Text.asciiUpper word) (suffix : Text) :
    Text.asciiUpper (o.addSuffix word' suffix) = Text.asciiUpper (o.addSuffix word suffix) := by
  rw [addSuffix_eq, addSuffix_eq, rule?_of_asciiUpper_eq mixes same]
  cases found : o.rule? word suffix with
  | none =>
    change Text.asciiUpper (word' ++ suffix) = Text.asciiUpper (word ++ suffix)
    rw [Text.asciiUpper_append, Text.asciiUpper_append, same]
  | some r =>
    obtain ⟨mem, new, fires⟩ := rule?_eq_some found
    have joined := SuffixRule.join?_of_asciiUpper_eq (List.all_eq_true.1 mixes r mem) same
      (rfl : Text.asciiUpper suffix = _)
    rw [fires, Option.map_some] at joined
    obtain ⟨new', fires', upper⟩ := Option.map_eq_some_iff.1 joined
    rw [Option.bind_some, Option.bind_some, fires, fires']
    exact upper

theorem mixesCase_english : english.mixesCase = true := by
  unfold english englishTable
  repeat rw [ofTable_cons]
  decide +kernel

end Orthography
end Stenotype
