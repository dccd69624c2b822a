import Mathlib.Data.List.Basic
import Stenotype.Proofs.Language
import Stenotype.Proofs.Spans

/-!
# What rules leave of a word

A rule takes the beginning of the word first, and last the break between the word and the suffix and
what comes after it; what it drops lies in between. So its result begins with the word up to a few
characters, and if the template brings along at least as many, the word never gets shorter.
-/

set_option autoImplicit false

namespace Stenotype
namespace Text

def Span.avoids (n : Nat) (p : Span) : Bool :=
  (n < p.first || p.last < n) && (n < p.image || p.image + (p.last - p.first) < n)

theorem toNat_ofNat_cases (n : Nat) : (Char.ofNat n).toNat = n ∨ (Char.ofNat n).toNat = 0 := by
  by_cases valid : n.isValidChar
  · left
    rw [Char.ofNat, dif_pos valid]
    exact UInt32.toNat_ofNatLT
  · right
    simp [Char.ofNat, valid]

theorem avoids_foldSpans : (foldSpans.all (Span.avoids ' '.toNat) &&
    foldSpans.all (Span.avoids '^'.toNat)) = true := by
  unfold foldSpans Span.read
  repeat rw [readRows_cons]
  decide +kernel

section variants
variable {c d : Char}

theorem eq_of_mem_variants (some : c.toNat ≠ 0)
    (folds : ∀ n < 0x80, fold (Char.ofNat n) = c → Char.ofNat n = c)
    (unfolds : ∀ n < 0x80, c ∉ unfold (Char.ofNat n))
    (avoids : foldSpans.all (Span.avoids c.toNat) = true) (mem : c ∈ variants d) : d = c := by
  have apart : ∀ p ∈ foldSpans, (c.toNat < p.first ∨ p.last < c.toNat) ∧
      (c.toNat < p.image ∨ p.image + (p.last - p.first) < c.toNat) := by
    simpa [Span.avoids] using avoids
  have other {n : Nat} (same : Char.ofNat n = c) : n = c.toNat := by
    have cases := toNat_ofNat_cases n
    rw [same] at cases
    omega
  -- ASCII is gone through one by one; behind it all goes by the spans, which avoid `c`
  rcases List.mem_cons.1 mem with folded | unfolded
  · by_cases ascii : isAscii d = true
    · exact forall_ascii (P := fun d => fold d = c → d = c) folds ascii folded.symm
    · have large : ¬ d.toNat < 0x80 := by simpa [isAscii] using ascii
      rw [fold, if_neg large] at folded
      cases found : lookup? foldSpans d.toNat with
      | none => simpa [found] using folded.symm
      | some m =>
        obtain ⟨p, hp, least, most⟩ := lookup?_eq_some found
        have image := (apart p hp).2
        rw [found] at folded
        have := other folded.symm
        omega
  · by_cases ascii : isAscii (fold d) = true
    · exact absurd unfolded (forall_ascii (P := fun e => c ∉ unfold e) unfolds ascii)
    · have large : ¬ (fold d).toNat < 0x80 := by simpa [isAscii] using ascii
      rw [unfold, if_neg large] at unfolded
      obtain ⟨n, hn, same⟩ := List.mem_map.1 unfolded
      obtain ⟨p, hp, source⟩ := List.mem_filterMap.1 hn
      simp only [Span.source?, Span.covers, Option.ite_none_right_eq_some, Bool.and_eq_true,
        decide_eq_true_eq, Option.some.injEq] at source
      have domain := (apart p hp).1
      have := other same
      omega

end variants
end Text

namespace Pattern

def CharSet.isOnly (c : Char) : CharSet → Bool
  | anyCase (ranges [(a, b)]) => a == c.toNat && b == c.toNat
  | _ => false

theorem CharSet.mem_of_isOnly {c : Char} {s : CharSet} (only : s.isOnly c = true) (d : Char) :
    s.mem d = true ↔ c ∈ Text.variants d := by
  unfold isOnly at only
  split at only
  · next a b =>
    simp only [Bool.and_eq_true, beq_iff_eq] at only
    obtain ⟨rfl, rfl⟩ := only
    have one (e : Char) : (ranges [(c.toNat, c.toNat)]).mem e = decide (e = c) := mem_single c e
    change (Text.variants d).any (ranges [(c.toNat, c.toNat)]).mem = true ↔ _
    simp only [List.any_eq_true, one, decide_eq_true_eq, exists_eq_right]
  · cases only

/-- No other character has `c` as a case form. -/
def IsAlone (c : Char) : Prop := ∀ d, c ∈ Text.variants d ↔ d = c

theorem isAlone_space : IsAlone ' ' := fun _ =>
  ⟨Text.eq_of_mem_variants (by decide) (by decide +kernel) (by decide +kernel)
    (Bool.and_eq_true_iff.1 Text.avoids_foldSpans).1, by rintro rfl; decide⟩

theorem isAlone_caret : IsAlone '^' := fun _ =>
  ⟨Text.eq_of_mem_variants (by decide) (by decide +kernel) (by decide +kernel)
    (Bool.and_eq_true_iff.1 Text.avoids_foldSpans).2, by rintro rfl; decide⟩

theorem CharSet.mem_iff_eq {c : Char} (alone : IsAlone c) {s : CharSet} (only : s.isOnly c = true)
    {d : Char} : s.mem d = true ↔ d = c :=
  (mem_of_isOnly only d).trans (alone d)

theorem Cursor.Passes.group?_eq {names : List Nat} {most : Option Nat} {c d : Cursor}
    (h : c.Passes names most d) {n : Nat} (other : n ∉ names) : d.group? n = c.group? n := by
  obtain ⟨_, new, _, groups, _, taken⟩ := h
  have apart : new.lookup n = none := by
    refine List.lookup_eq_none_iff.2 fun g mem => ?_
    exact bne_iff_ne.2 fun same => other (same ▸ (taken g mem).1)
  rw [Cursor.group?, groups, List.lookup_append, apart, Option.none_or, Cursor.group?]

theorem Cursor.Passes.of_text {names : List Nat} {most : Option Nat} {c d : Cursor}
    (h : c.Passes names most d) {u : Text} (text : c.after = u ++ d.after) :
    ∃ new, d.groups = new ++ c.groups ∧ (∀ n ∈ most, u.length ≤ n) ∧
      ∀ g ∈ new, g.1 ∈ names ∧ g.2 ⊆ u := by
  obtain ⟨v, new, text', rest⟩ := h
  obtain rfl := List.append_cancel_right (text.symm.trans text')
  exact ⟨new, rest⟩

namespace Regex

/-- Whatever a match takes, group `n` takes at least so many characters, if that is known. -/
def groupLeast? (n : Nat) : Regex → Option Nat
  | seq r s => if s.groupNames.contains n then s.groupLeast? n else r.groupLeast? n
  | group m r => if m = n then some r.leastLength else r.groupLeast? n
  | _ => none

theorem Reaches.group?_of_groupLeast? {n l : Nat} {r : Regex} (least : r.groupLeast? n = some l)
    {c d : Cursor} (h : r.Reaches c d) : ∃ t, d.group? n = some t ∧ l ≤ t.length := by
  induction r generalizing c d with
  | seq r s ihr ihs =>
    obtain ⟨e, first, later⟩ := h
    rw [groupLeast?] at least
    split at least
    · exact ihs least later
    · next other =>
      rw [later.passes.group?_eq (by simpa using other)]
      exact ihr least first
  | group m r ih =>
    obtain ⟨e, inside, rfl⟩ := h
    rw [groupLeast?] at least
    split at least
    · next same =>
      cases same
      cases least
      obtain ⟨u, _, text, _⟩ := inside.passes
      refine ⟨u, ?_, ?_⟩
      · simp [Cursor.group?, Cursor.record, span_of_append text]
      · have length := inside.advances.length
        rw [text, List.length_append] at length
        omega
    · next other =>
      obtain ⟨t, taken, long⟩ := ih least inside
      refine ⟨t, ?_, long⟩
      have apart : (n == m) = false := beq_eq_false_iff_ne.2 (Ne.symm other)
      rw [← taken, Cursor.group?, Cursor.record, List.lookup_cons, apart]
      rfl
  | _ => cases least

def afterBreak? : Regex → Option Regex
  | seq (char a) (seq (char b) (seq (char c) r)) =>
    if a.isOnly ' ' && b.isOnly '^' && c.isOnly ' ' then some r else none
  | _ => none

def splitBreak? : Regex → Option (Regex × Regex)
  | seq r s =>
    match (seq r s).afterBreak? with
    | some after => some (empty, after)
    | none => s.splitBreak?.map fun (before, after) => (seq r before, after)
  | _ => none

def breakText : Text := [' ', '^', ' ']

theorem afterBreak?_eq_some {r after : Regex} (split : r.afterBreak? = some after) :
    ∃ a b c, r = seq (char a) (seq (char b) (seq (char c) after)) ∧ a.isOnly ' ' = true ∧
      b.isOnly '^' = true ∧ c.isOnly ' ' = true := by
  unfold afterBreak? at split
  split at split
  · simp only [Option.ite_none_right_eq_some, Bool.and_eq_true, Option.some.injEq] at split
    obtain ⟨⟨⟨space, caret⟩, space'⟩, rfl⟩ := split
    exact ⟨_, _, _, rfl, space, caret, space'⟩
  · cases split

theorem Reaches.afterBreak {r after : Regex} (split : r.afterBreak? = some after) {c d : Cursor}
    (h : r.Reaches c d) :
    ∃ rest, c.after = breakText ++ rest ∧
      after.Reaches ⟨breakText.reverse ++ c.before, rest, c.groups⟩ d := by
  obtain ⟨_, _, _, rfl, space, caret, space'⟩ := afterBreak?_eq_some split
  obtain ⟨_, ⟨x, s, text, inX, rfl⟩, _, ⟨y, t, rfl, inY, rfl⟩, _, ⟨z, u, rfl, inZ, rfl⟩, later⟩ := h
  obtain rfl := (CharSet.mem_iff_eq isAlone_space space).1 inX
  obtain rfl := (CharSet.mem_iff_eq isAlone_caret caret).1 inY
  obtain rfl := (CharSet.mem_iff_eq isAlone_space space').1 inZ
  exact ⟨u, text, later⟩

theorem takes_of_afterBreak {r after : Regex} (split : r.afterBreak? = some after)
    {back u rest : Text} (h : after.Takes (breakText.reverse ++ back) u rest) :
    r.Takes back (breakText ++ u) rest := by
  obtain ⟨_, _, _, rfl, space, caret, space'⟩ := afterBreak?_eq_some split
  exact ⟨[' '], '^' :: ' ' :: u, rfl, ⟨' ', rfl, (CharSet.mem_iff_eq isAlone_space space).2 rfl⟩,
    ['^'], ' ' :: u, rfl, ⟨'^', rfl, (CharSet.mem_iff_eq isAlone_caret caret).2 rfl⟩,
    [' '], u, rfl, ⟨' ', rfl, (CharSet.mem_iff_eq isAlone_space space').2 rfl⟩, h⟩

theorem Reaches.splitBreak {r before after : Regex} (split : r.splitBreak? = some (before, after))
    {c d : Cursor} (h : r.Reaches c d) :
    ∃ e rest, before.Reaches c e ∧ e.after = breakText ++ rest ∧
      after.Reaches ⟨breakText.reverse ++ e.before, rest, e.groups⟩ d := by
  fun_induction splitBreak? r generalizing before c with
  | case1 r s after' here =>
    cases split
    obtain ⟨rest, text, later⟩ := h.afterBreak here
    exact ⟨c, rest, rfl, text, later⟩
  | case2 r s _ ih =>
    obtain ⟨⟨p, q⟩, split, same⟩ := Option.map_eq_some_iff.1 split
    cases same
    obtain ⟨b, first, later⟩ := h
    obtain ⟨e, rest, middle, text, last⟩ := ih split later
    exact ⟨e, rest, ⟨b, first, middle⟩, text, last⟩
  | case3 => cases split

theorem takes_of_splitBreak {r before after : Regex} (split : r.splitBreak? = some (before, after))
    {back v u rest : Text} (h : before.Takes back v (breakText ++ u ++ rest))
    (h' : after.Takes (breakText.reverse ++ (v.reverse ++ back)) u rest) :
    r.Takes back (v ++ (breakText ++ u)) rest := by
  fun_induction splitBreak? r generalizing before back v with
  | case1 r s after' here =>
    cases split
    cases h
    exact takes_of_afterBreak here h'
  | case2 r s _ ih =>
    obtain ⟨⟨p, q⟩, split, same⟩ := Option.map_eq_some_iff.1 split
    cases same
    obtain ⟨x, y, rfl, first, second⟩ := h
    refine ⟨x, y ++ (breakText ++ u), by rw [List.append_assoc], ?_, ih split second ?_⟩
    · rwa [List.append_assoc]
    · rwa [← List.append_assoc y.reverse, ← List.reverse_append]
  | case3 => cases split

/-- The text is `u`, which the stem takes, `v`, which is dropped, the break, and what the rest of the
expression takes. -/
structure Parts (stem before after : Regex) (back u v suffix : Text) : Prop where
  stem : stem.Takes back u (v ++ (breakText ++ suffix))
  dropped : before.Takes (u.reverse ++ back) v (breakText ++ suffix)
  rest : ∃ x y, suffix = x ++ y ∧
    after.Takes (breakText.reverse ++ (v.reverse ++ (u.reverse ++ back))) x y

/-- Group 1 takes the beginning of the text, and what is not taken comes before the break, or is the
break itself. -/
theorem Reaches.stem {stem rest before after : Regex}
    (split : rest.splitBreak? = some (before, after)) (other : 1 ∉ rest.groupNames) {c e : Cursor}
    (h : (seq (group 1 stem) rest).Reaches c e) (none : c.groups = []) :
    ∃ u v suffix, c.after = u ++ v ++ (breakText ++ suffix) ∧
      Parts stem before after c.before u v suffix ∧ e.group? 1 = some u ∧
      (∀ m ∈ before.mostLength?, v.length ≤ m) ∧ ∀ g ∈ e.groups, g.2 ⊆ u ++ v ++ suffix := by
  -- from the left: the group, what is dropped, and after the break the rest
  obtain ⟨_, ⟨d, first, rfl⟩, later⟩ := h
  obtain ⟨b, suffix, middle, break_here, last⟩ := later.splitBreak split
  obtain ⟨u, text, back, inStem⟩ := first.takes
  obtain ⟨v, middle_text, middle_back, dropped⟩ := middle.takes
  obtain ⟨w, last_text, -, inRest⟩ := last.takes
  obtain ⟨inU, groups, -, taken⟩ := first.passes.of_text text
  obtain ⟨inV, middle_groups, most, middle_taken⟩ := middle.passes.of_text middle_text
  obtain ⟨inW, last_groups, -, last_taken⟩ := last.passes.of_text last_text
  replace middle_text : d.after = v ++ b.after := middle_text
  replace middle_back : b.before = v.reverse ++ d.before := middle_back
  replace last_text : suffix = w ++ e.after := last_text
  rw [break_here] at middle_text dropped
  rw [middle_text] at text inStem
  rw [back] at middle_back
  refine ⟨u, v, suffix, by rw [text, List.append_assoc],
    ⟨inStem, back ▸ dropped, w, e.after, last_text, middle_back ▸ inRest⟩, ?_, most, fun g mem => ?_⟩
  · rw [later.passes.group?_eq other]
    simp [Cursor.group?, Cursor.record, Cursor.span, text, middle_text]
  · have all : e.groups = inW ++ (inV ++ ((1, u) :: inU)) := by
      rw [last_groups, middle_groups]
      simp [Cursor.record, Cursor.span, text, middle_text, groups, none]
    rw [all, List.mem_append, List.mem_append, List.mem_cons] at mem
    rw [last_text]
    rcases mem with here | here | rfl | here
    · have sub := (last_taken g here).2
      exact fun x mem => by simp [sub mem]
    · have sub := (middle_taken g here).2
      exact fun x mem => by simp [sub mem]
    · exact fun x mem => by simp [mem]
    · have sub := (taken g here).2
      exact fun x mem => by simp [sub mem]

end Regex

def partLeast? (r : Regex) : TemplatePart → Option Nat
  | .literal _ => some 1
  | .group name => (Template.number? name).bind fun n => if n = 0 then none else r.groupLeast? n

def templateLeast? (r : Regex) : Template → Option Nat
  | [] => some 0
  | part :: t =>
    (partLeast? r part).bind fun m => (templateLeast? r t).map (m + ·)

/-- The first group is the beginning of the word and of the result, at most `n` characters that come
after it in the word are dropped, and at least as many are brought along. -/
def keepsStem (n : Nat) (p : Pattern) (t : Template) : Bool :=
  match p.program.regex, t with
  | .seq (.anchor .textStart) (.seq (.group 1 _) rest), .group ['1'] :: others =>
    match rest.splitBreak?, templateLeast? rest others with
    | some (before, _), some least =>
      !rest.groupNames.contains 1 && before.mostLength?.any fun m => m ≤ n && m ≤ least
    | _, _ => false
  | _, _ => false

variable {p : Pattern}

theorem groupText_of_group? {d : Cursor} {name t : Text} {n : Nat}
    (number : Template.number? name = some n) (taken : d.group? n = some t) :
    p.groupText d name = t := by
  simp [groupText, number, taken]

theorem groupText_of_partLeast? {r : Regex} {c d : Cursor} (h : r.Reaches c d) (e : Cursor)
    {name : Text} {m : Nat} (least : partLeast? r (.group name) = some m) :
    ∃ g ∈ d.groups, p.groupText (e.record 0 d) name = g.2 ∧ m ≤ g.2.length := by
  obtain ⟨n, number, surely⟩ := Option.bind_eq_some_iff.1 least
  split at surely
  · cases surely
  · next other =>
    obtain ⟨u, taken, long⟩ := h.group?_of_groupLeast? surely
    refine ⟨(n, u), Cursor.mem_groups_of_group? taken, ?_, long⟩
    rw [← Regex.group?_record_zero other e d] at taken
    exact groupText_of_group? number taken

theorem expand_of_templateLeast? {r : Regex} {c d : Cursor} (h : r.Reaches c d) (e : Cursor)
    {t : Template} {l : Nat} (least : templateLeast? r t = some l) :
    let made := t.expand (p.groupText (e.record 0 d))
    l ≤ made.length ∧ ∀ x ∈ made, x ∈ t.literals ∨ ∃ g ∈ d.groups, x ∈ g.2 := by
  induction t generalizing l with
  | nil =>
    cases least
    exact ⟨Nat.zero_le _, by simp [Template.expand]⟩
  | cons part t ih =>
    obtain ⟨m, one, rest⟩ := Option.bind_eq_some_iff.1 least
    obtain ⟨k, others, rfl⟩ := Option.map_eq_some_iff.1 rest
    obtain ⟨long, among⟩ := ih others
    simp only [Template.expand, List.flatMap_cons, List.length_append, List.mem_append]
    cases part with
    | literal x =>
      cases one
      refine ⟨Nat.add_le_add (Nat.le_refl 1) long, fun y mem => ?_⟩
      rcases mem with own | later
      · exact .inl (List.mem_cons.2 (.inl (List.mem_singleton.1 own)))
      · exact (among y later).imp_left (List.mem_cons_of_mem x)
    | group name =>
      obtain ⟨g, taken, text, long'⟩ := groupText_of_partLeast? (p := p) h e one
      simp only [text]
      refine ⟨Nat.add_le_add long' long, fun y mem => ?_⟩
      rcases mem with here | later
      · exact .inr ⟨g, taken, here⟩
      · exact among y later

end Pattern

namespace SuffixRule

open Pattern.Regex (breakText) in
theorem split_candidate {word suffix front back : Text} (plain : ' ' ∉ word) (plain' : '^' ∉ suffix)
    (same : candidate word suffix = front ++ (breakText ++ back)) : word = front ∧ suffix = back := by
  rw [candidate, List.append_assoc, List.append_eq_append_iff] at same
  rcases same with ⟨mid, rfl, rest⟩ | ⟨mid, rfl, rest⟩
  · -- a later break would have its caret in the suffix
    rcases mid with _ | ⟨c, _ | ⟨d, _ | ⟨e, mid⟩⟩⟩
    · exact ⟨(List.append_nil _).symm, List.append_cancel_left rest⟩
    · cases rest
    · cases rest
      simp at plain'
    · cases rest
      simp [breakText] at plain'
  · -- and an earlier one its first blank in the word
    rcases mid with _ | ⟨c, mid⟩
    · exact ⟨List.append_nil _, (List.append_cancel_left rest).symm⟩
    · obtain ⟨rfl, -⟩ := List.cons.inj rest
      simp at plain

end SuffixRule

/-- The second text begins with the first up to `n` characters, and is not shorter. -/
structure Text.KeepsStem (n : Nat) (word new : Text) : Prop where
  common : word.length ≤ commonLength word new + n
  length : word.length ≤ new.length

theorem Text.keepsStem_append {n : Nat} {u v w : Text} (few : v.length ≤ n)
    (enough : v.length ≤ w.length) : KeepsStem n (u ++ v) (u ++ w) := by
  have common : u.length ≤ commonLength (u ++ v) (u ++ w) :=
    le_commonLength (by simp) (by simp) (by simp)
  constructor
  · rw [List.length_append]
    omega
  · rw [List.length_append, List.length_append]
    omega

theorem Text.keepsStem_self_append (n : Nat) (word s : Text) : KeepsStem n word (word ++ s) := by
  simpa using keepsStem_append (n := n) (u := word) (v := []) (w := s) (Nat.zero_le n) (Nat.zero_le _)

section rule
variable {p : Pattern} {t : Pattern.Template} {n : Nat} {word suffix : Text}

open Pattern SuffixRule in
theorem Pattern.keepsStem_of_reaches (keeps : p.keepsStem n t = true) (plain : ' ' ∉ word)
    (plain' : '^' ∉ suffix) {c e : Cursor} (h : p.program.regex.Reaches c e) (none : c.groups = [])
    (start : c.before = [] → c.after = candidate word suffix) (c₀ : Cursor) :
    let new := t.expand (p.groupText (c₀.record 0 e))
    Text.KeepsStem n word new ∧ ∀ x ∈ new, x ∈ t.literals ∨ x ∈ word ∨ x ∈ suffix := by
  unfold Pattern.keepsStem at keeps
  split at keeps
  · next stem rest others regex =>
    split at keeps
    · next before after least split most =>
      simp only [Bool.and_eq_true, Bool.not_eq_true', Option.any_eq_true, decide_eq_true_eq] at keeps
      obtain ⟨other, m, longest, few, enough⟩ := keeps
      rw [regex] at h
      obtain ⟨_, ⟨at_start, rfl⟩, later⟩ := h
      have whole := start (List.isEmpty_iff.1 at_start)
      obtain ⟨u, v, back, text, -, taken, dropped, among⟩ :=
        later.stem split (by simpa using other) none
      obtain ⟨rfl, rfl⟩ := split_candidate plain plain' (whole.symm.trans text)
      obtain ⟨_, _, reaches⟩ := later
      obtain ⟨brought, made⟩ := expand_of_templateLeast? (p := p) reaches c₀ most
      have dropped := dropped m longest
      have first : p.groupText (c₀.record 0 e) ['1'] = u :=
        groupText_of_group? (n := 1) rfl ((Regex.group?_record_zero (by decide) c₀ e).trans taken)
      simp only [Template.expand, List.flatMap_cons, first]
      refine ⟨Text.keepsStem_append (by omega) (Nat.le_trans (by omega) brought), fun x mem => ?_⟩
      rcases List.mem_append.1 mem with stem | later
      · exact .inr (.inl (List.mem_append_left v stem))
      · rcases made x later with literal | ⟨g, recorded, inside⟩
        · exact .inl literal
        · exact .inr (by simpa [or_assoc] using among g recorded inside)
    · cases keeps
  · cases keeps

/-- What a rule makes has the stem of the word, and is made of the word, the suffix and what the
template brings along. -/
theorem SuffixRule.keepsStem_of_join? {r : SuffixRule} (keeps : r.pattern.keepsStem n r.template = true)
    (plain : ' ' ∉ word) (plain' : '^' ∉ suffix) {new : Text} (joined : r.join? word suffix = some new) :
    Text.KeepsStem n word new ∧ ∀ c ∈ new, c ∈ r.template.literals ∨ c ∈ word ∨ c ∈ suffix := by
  obtain ⟨d, found, rfl⟩ := Option.map_eq_some_iff.1 joined
  obtain ⟨front, back, whole, e, inside, rfl⟩ := Pattern.Regex.reaches_of_searchFrom found
  refine Pattern.keepsStem_of_reaches keeps plain plain' inside rfl ?_ _
  intro start
  obtain rfl : front = [] := by simpa using start
  exact whole.symm

end rule

namespace Orthography

def keepsStems (o : Orthography) (n : Nat) : Bool :=
  o.rules.all fun r => r.pattern.keepsStem n r.template

theorem keepsStem_addSuffix {o : Orthography} {n : Nat} (keeps : o.keepsStems n = true)
    {word suffix : Text} (plain : ' ' ∉ word) (plain' : '^' ∉ suffix) :
    let new := o.addSuffix word suffix
    Text.KeepsStem n word new ∧
      ∀ c ∈ new, (∃ r ∈ o.rules, c ∈ r.template.literals) ∨ c ∈ word ∨ c ∈ suffix := by
  unfold addSuffix
  cases joined : o.rules.findSome? fun r => r.join? word suffix with
  | none => exact ⟨Text.keepsStem_self_append n word suffix, fun c mem => .inr (List.mem_append.1 mem)⟩
  | some new =>
    obtain ⟨r, hr, here⟩ := List.exists_of_findSome?_eq_some joined
    obtain ⟨stem, among⟩ :=
      SuffixRule.keepsStem_of_join? (List.all_eq_true.1 keeps r hr) plain plain' here
    exact ⟨stem, fun c mem => (among c mem).imp_left fun literal => ⟨r, hr, literal⟩⟩

theorem keepsStems_english : english.keepsStems 5 = true := by
  unfold english englishTable
  repeat rw [ofTable_cons]
  decide +kernel

end Orthography
end Stenotype
