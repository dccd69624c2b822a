import Mathlib.Data.List.Chain
import Stenotype.Atom

/-!
# The grammar of atoms

A brace is escaped if it comes right after a backslash. A command begins and ends with a brace that
is not, a text has none, and a brace that is not escaped and belongs to no command is dropped. These
conditions leave one way to divide a text, and the splitter finds it. As no atom but a command has
such a brace, the atoms written one after the other divide in the same way again, with texts merged
that come to stand side by side.
-/

set_option autoImplicit false

namespace Stenotype.Atom

/-- No brace comes first, and every other one comes right after a backslash. -/
def BracesEscaped (s : Text) : Prop :=
  (∀ c ∈ s.head?, isBrace c = false) ∧ s.IsChain fun a b => isBrace b = true → a = '\\'

instance (s : Text) : Decidable (BracesEscaped s) :=
  have : Decidable (∀ c ∈ s.head?, isBrace c = false) := Option.decidableForallMem _
  inferInstanceAs (Decidable (_ ∧ _))

/-- An opening brace, characters and escaped braces, and a closing brace that is not escaped. -/
def IsCommand (a : Text) : Prop :=
  ∃ m, a = '\x7b' :: (m ++ ['\x7d']) ∧ BracesEscaped m ∧ m.getLast? ≠ some '\\'

def IsText (a : Text) : Prop := a ≠ [] ∧ BracesEscaped a

/-- `a` goes as far as the next brace that is not escaped, or the end of the text. -/
def ReachesBrace (a rest : Text) : Prop :=
  rest = [] ∨ a.getLast? ≠ some '\\' ∧ ∃ c ∈ rest.head?, isBrace c = true

/-- A closing brace after `before` would end a command that begins in it. -/
def InCommand (before : Text) : Prop :=
  ∃ front m, before = front ++ '\x7b' :: m ∧ front.getLast? ≠ some '\\' ∧
    IsCommand ('\x7b' :: (m ++ ['\x7d']))

/-- The text `rest`, which comes after `before`, is the atoms in order, and stray braces. -/
inductive Splits : Text → Text → List Text → Prop
  | done (before : Text) : Splits before [] []
  | command {before a rest : Text} {atoms : List Text} (isCommand : IsCommand a)
      (others : Splits (before ++ a) rest atoms) : Splits before (a ++ rest) (a :: atoms)
  | text {before a rest : Text} {atoms : List Text} (isText : IsText a)
      (whole : ReachesBrace a rest) (others : Splits (before ++ a) rest atoms) :
      Splits before (a ++ rest) (a :: atoms)
  | stray {before rest : Text} {atoms : List Text} {c : Char} (brace : isBrace c = true)
      (unescaped : before.getLast? ≠ some '\\')
      (opensNone : c = '\x7b' → ∀ a, IsCommand a → ¬a <+: c :: rest)
      (closesNone : c = '\x7d' → ¬InCommand before)
      (others : Splits (before ++ [c]) rest atoms) : Splits before (c :: rest) atoms

theorem isCommand_braced {m : Text} :
    IsCommand ('\x7b' :: (m ++ ['\x7d'])) ↔ BracesEscaped m ∧ m.getLast? ≠ some '\\' := by
  refine ⟨fun ⟨t, same, escaped, last⟩ => ?_, fun ⟨escaped, last⟩ => ⟨m, rfl, escaped, last⟩⟩
  rw [List.append_cancel_right (List.cons.inj same).2]
  exact ⟨escaped, last⟩

namespace BracesEscaped

theorem nil : BracesEscaped [] := ⟨by simp, List.isChain_nil⟩

theorem append_iff {s t : Text} :
    BracesEscaped (s ++ t) ↔
      BracesEscaped s ∧ (t.IsChain fun a b => isBrace b = true → a = '\\') ∧
        ∀ c ∈ t.head?, isBrace c = true → s.getLast? = some '\\' := by
  cases s with
  | nil =>
    simp only [BracesEscaped, List.nil_append, List.head?_nil, List.getLast?_nil, reduceCtorEq]
    refine ⟨fun ⟨first, chain⟩ => ⟨⟨by simp, .nil⟩, chain, fun c hc => by simp [first c hc]⟩,
      fun ⟨_, chain, first⟩ => ⟨fun c hc => by simpa using first c hc, chain⟩⟩
  | cons d s =>
    rw [BracesEscaped, List.isChain_append]
    simp only [BracesEscaped, List.cons_append, List.head?_cons, List.getLast?_cons,
      Option.mem_some, Option.some.injEq, forall_eq']
    exact and_assoc.symm

theorem before_brace {s t : Text} {c : Char} (h : BracesEscaped (s ++ c :: t))
    (brace : isBrace c = true) : s.getLast? = some '\\' :=
  (append_iff.1 h).2.2 c rfl brace

theorem head {c : Char} {s : Text} (h : BracesEscaped (c :: s)) : isBrace c = false := h.1 c rfl

theorem cons {c : Char} {s : Text} (h : BracesEscaped s) (text : isBrace c = false) :
    BracesEscaped (c :: s) := by
  refine (append_iff (s := [c])).2 ⟨⟨by simpa using text, .singleton c⟩, h.2, fun d hd brace => ?_⟩
  rw [h.1 d hd] at brace
  cases brace

theorem cons_escaped {s : Text} (h : BracesEscaped s) (c : Char) :
    BracesEscaped ('\\' :: c :: s) := by
  refine (append_iff (s := ['\\', c])).2 ⟨⟨by simp [isBrace], by simp⟩, h.2, fun d hd brace => ?_⟩
  rw [h.1 d hd] at brace
  cases brace

theorem tail {c : Char} {s : Text} (h : BracesEscaped (c :: s)) (other : c ≠ '\\') :
    BracesEscaped s := by
  obtain ⟨_, chain, joint⟩ := (append_iff (s := [c])).1 h
  refine ⟨fun d hd => ?_, chain⟩
  by_contra brace
  exact other (Option.some.inj (joint d hd (by simpa using brace)))

theorem tail_of_text {c d : Char} {s : Text} (h : BracesEscaped (c :: d :: s))
    (text : isBrace d = false) : BracesEscaped (d :: s) :=
  ⟨by simpa using text, ((append_iff (s := [c])).1 h).2.1⟩

theorem tail_tail {c d : Char} {s : Text} (h : BracesEscaped (c :: d :: s))
    (brace : isBrace d = true) : BracesEscaped s := by
  obtain ⟨_, chain, joint⟩ := (append_iff (s := [c, d])).1 h
  refine ⟨fun e he => ?_, chain⟩
  by_contra brace'
  have slash : d = '\\' := Option.some.inj (joint e he (by simpa using brace'))
  rw [slash] at brace
  cases brace

end BracesEscaped

theorem closeMeta?_of_bracesEscaped {m : Text} (h : BracesEscaped m)
    (last : m.getLast? ≠ some '\\') (rest : Text) :
    closeMeta? (m ++ '\x7d' :: rest) = some (m ++ ['\x7d'], rest) := by
  fun_induction closeMeta? m with
  | case1 => simp [closeMeta?]
  | case2 c r brace ih =>
    have rest := ih (h.tail_tail brace) (by cases r <;> simp_all [List.getLast?_cons])
    simp [closeMeta?, brace, rest]
  | case3 c r text ih =>
    have rest := ih (h.tail_of_text (by simpa using text)) (by simpa [List.getLast?_cons] using last)
    rw [List.cons_append, List.cons_append] at *
    simp [closeMeta?, text, rest]
  | case4 r _ => cases h.head
  | case5 r _ _ => cases h.head
  | case6 c r plain other other' ih =>
    have slash : c ≠ '\\' := by
      rintro rfl
      cases r with
      | nil => exact last rfl
      | cons d r => exact plain d r rfl rfl
    have rest := ih (h.tail slash) (by cases r <;> simp_all [List.getLast?_cons])
    simp [closeMeta?, slash, other, other', rest]

theorem getLast?_cons_ne {c : Char} {s : Text} (first : c ≠ '\\')
    (last : s.getLast? ≠ some '\\') : (c :: s).getLast? ≠ some '\\' := by
  cases s <;> simp_all [List.getLast?_cons]

theorem body_of_closeMeta? {s m rest : Text} (h : closeMeta? s = some (m, rest)) :
    ∃ t, m = t ++ ['\x7d'] ∧ BracesEscaped t ∧ t.getLast? ≠ some '\\' := by
  fun_induction closeMeta? s generalizing m with
  | case1 => cases h
  | case2 c r brace ih =>
    obtain ⟨⟨m', r'⟩, h, same⟩ := Option.map_eq_some_iff.1 h
    cases same
    obtain ⟨t, rfl, escaped, last⟩ := ih h
    have slash : c ≠ '\\' := by rintro rfl; cases brace
    refine ⟨'\\' :: c :: t, rfl, escaped.cons_escaped c, ?_⟩
    rw [List.getLast?_cons_cons]
    exact getLast?_cons_ne slash last
  | case3 c r text ih =>
    obtain ⟨⟨m', r'⟩, h, same⟩ := Option.map_eq_some_iff.1 h
    cases same
    obtain ⟨t, rfl, escaped, last⟩ := ih h
    refine ⟨'\\' :: t, rfl, escaped.cons (by decide), ?_⟩
    cases t with
    | nil =>
      obtain ⟨rfl, _⟩ := List.cons.inj (closeMeta?_append h)
      cases text rfl
    | cons d t => rwa [List.getLast?_cons_cons]
  | case4 r =>
    cases h
    exact ⟨[], rfl, .nil, by simp⟩
  | case5 => cases h
  | case6 c r plain other other' ih =>
    obtain ⟨⟨m', r'⟩, h, same⟩ := Option.map_eq_some_iff.1 h
    cases same
    have slash : c ≠ '\\' := by
      rintro rfl
      cases r with
      | nil => cases h
      | cons d r => exact plain d r rfl rfl
    obtain ⟨t, rfl, escaped, last⟩ := ih h
    exact ⟨c :: t, rfl, escaped.cons (by simp [isBrace, other, other']),
      getLast?_cons_ne slash last⟩

theorem bracesEscaped_takeText (s : Text) : BracesEscaped (takeText s).1 := by
  fun_induction takeText s with
  | case1 => exact .nil
  | case2 c r brace t rest eq ih => exact (eq ▸ ih).cons_escaped c
  | case3 c r text t rest eq ih => exact (eq ▸ ih).cons (by decide)
  | case4 c r plain brace => exact .nil
  | case5 c r plain text t rest eq ih => exact (eq ▸ ih).cons (by simpa using text)

theorem ReachesBrace.cons {c : Char} {a rest : Text} (h : ReachesBrace a rest)
    (first : c ≠ '\\' ∨ a ≠ []) : ReachesBrace (c :: a) rest := by
  refine h.imp_right fun ⟨last, next⟩ => ⟨?_, next⟩
  cases a with
  | nil => exact getLast?_cons_ne (first.resolve_right (· rfl)) last
  | cons d a => rwa [List.getLast?_cons_cons]

theorem reachesBrace_takeText (s : Text) : ReachesBrace (takeText s).1 (takeText s).2 := by
  fun_induction takeText s with
  | case1 => exact .inl rfl
  | case2 c r brace t rest eq ih =>
    have slash : c ≠ '\\' := by rintro rfl; cases brace
    exact ((eq ▸ ih).cons (.inl slash)).cons (.inr (List.cons_ne_nil c t))
  | case3 c r text t rest eq ih =>
    have ne : t ≠ [] := fun none =>
      takeText_ne_nil (by simpa using text) ((congrArg Prod.fst eq).trans none)
    exact (eq ▸ ih).cons (.inr ne)
  | case4 c r plain brace => exact .inr ⟨by simp, c, rfl, brace⟩
  | case5 c r plain text t rest eq ih =>
    by_cases slash : c = '\\'
    · cases r with
      | nil =>
        cases eq
        exact .inl rfl
      | cons d r => cases plain d r slash rfl
    · exact (eq ▸ ih).cons (.inl slash)

theorem takeText_append_of_bracesEscaped {a s : Text} (h : BracesEscaped a)
    (joint : a.getLast? = some '\\' → ∀ c ∈ s.head?, isBrace c = false) :
    takeText (a ++ s) = (a ++ (takeText s).1, (takeText s).2) := by
  fun_induction takeText a with
  | case1 => rfl
  | case2 c r brace t rest eq ih =>
    have rest := ih (h.tail_tail brace) fun last => joint (by
      rw [List.getLast?_cons_cons]
      cases r <;> simp_all [List.getLast?_cons])
    simp [takeText, brace, rest]
  | case3 c r text t rest eq ih =>
    have rest := ih (h.tail_of_text (by simpa using text)) fun last => joint (by
      rwa [List.getLast?_cons_cons])
    rw [List.cons_append] at rest
    simp [takeText, text, rest]
  | case4 c r plain brace => cases h.head.symm.trans brace
  | case5 c r plain text t rest eq ih =>
    by_cases slash : c = '\\'
    · cases r with
      | nil =>
        subst slash
        cases s with
        | nil => rfl
        | cons d s => simp [takeText, joint rfl d rfl]
      | cons d r => cases plain d r slash rfl
    · have rest := ih (h.tail slash) fun last => joint (by
        cases r <;> simp_all [List.getLast?_cons])
      simp [takeText, slash, text, rest]

theorem split_command_append {a : Text} (h : IsCommand a) (rest : Text) :
    split (a ++ rest) = a :: split rest := by
  obtain ⟨m, rfl, escaped, last⟩ := h
  have closed := closeMeta?_of_bracesEscaped escaped last rest
  rw [List.cons_append, List.append_assoc, List.singleton_append, split, if_pos rfl]
  split
  · next m' rest' closed' =>
    rw [closed] at closed'
    cases closed'
    rfl
  · next unclosed =>
    rw [closed] at unclosed
    cases unclosed

theorem split_of_text {c : Char} {s : Text} (text : isBrace c = false) :
    split (c :: s) = (takeText (c :: s)).1 :: split (takeText (c :: s)).2 := by
  simp only [isBrace, Bool.or_eq_false_iff, decide_eq_false_iff_not] at text
  rw [split, if_neg text.1, if_neg text.2]

theorem split_text_append {a s : Text} (h : IsText a)
    (joint : a.getLast? = some '\\' → ∀ c ∈ s.head?, isBrace c = false) :
    split (a ++ s) = (a ++ (takeText s).1) :: split (takeText s).2 := by
  obtain ⟨ne, escaped⟩ := h
  have taken := takeText_append_of_bracesEscaped escaped joint
  obtain ⟨c, r, rfl⟩ := List.exists_cons_of_ne_nil ne
  rw [List.cons_append] at taken
  rw [List.cons_append, split_of_text escaped.head, taken]

theorem takeText_of_brace {s : Text} (brace : ∀ c ∈ s.head?, isBrace c = true) :
    takeText s = ([], s) := by
  cases s with
  | nil => rfl
  | cons c s =>
    have slash : c ≠ '\\' := by
      rintro rfl
      cases brace _ rfl
    rw [takeText.eq_3 _ _ (by simp [slash]), if_pos (brace c rfl)]

theorem split_text {a rest : Text} (h : IsText a) (whole : ReachesBrace a rest) :
    split (a ++ rest) = a :: split rest := by
  have brace : ∀ c ∈ rest.head?, isBrace c = true := by
    rcases whole with rfl | ⟨_, c, here, brace⟩
    · simp
    · intro d hd
      rwa [Option.some.inj (hd.symm.trans here)]
  have joint : a.getLast? = some '\\' → ∀ c ∈ rest.head?, isBrace c = false := by
    rcases whole with rfl | ⟨last, _⟩
    · simp
    · exact fun last' => absurd last' last
  rw [split_text_append h joint, takeText_of_brace brace, List.append_nil]

theorem split_of_isCommand {a : Text} (h : IsCommand a) : split a = [a] := by
  have whole := split_command_append h []
  rwa [List.append_nil, split] at whole

theorem split_of_isText {a : Text} (h : IsText a) : split a = [a] := by
  have whole := split_text h (.inl rfl)
  rwa [List.append_nil, split] at whole

theorem trimmed_of_isCommand {a : Text} (h : IsCommand a) : trimmed a = [a] := by
  have whole := split_of_isCommand h
  obtain ⟨m, rfl, _⟩ := h
  have trim : Text.trim ('\x7b' :: (m ++ ['\x7d'])) = '\x7b' :: (m ++ ['\x7d']) := by
    rw [Text.trim, Text.trimStart_of_ink (by decide), ← List.cons_append,
      Text.trimEnd_of_ink (by decide)]
  rw [trimmed, whole, List.map_singleton, trim]
  rfl

theorem split_opening {s : Text} (unclosed : closeMeta? s = none) :
    split ('\x7b' :: s) = split s := by
  rw [split, if_pos rfl]
  split
  · next closed =>
    rw [unclosed] at closed
    cases closed
  · rfl

theorem split_closing (s : Text) : split ('\x7d' :: s) = split s := by
  rw [split, if_neg (by decide), if_pos rfl]

theorem Splits.eq_split {before rest : Text} {atoms : List Text} (h : Splits before rest atoms) :
    atoms = split rest := by
  induction h with
  | done => rw [split]
  | command isCommand _ ih => rw [split_command_append isCommand, ih]
  | text isText whole _ ih => rw [split_text isText whole, ih]
  | @stray before rest atoms c brace _ opensNone _ _ ih =>
    rw [ih]
    simp only [isBrace, Bool.or_eq_true, decide_eq_true_eq] at brace
    rcases brace with rfl | rfl
    · refine (split_opening (Option.eq_none_iff_forall_ne_some.2 ?_)).symm
      rintro ⟨m, after⟩ closed
      obtain ⟨t, rfl, escaped, last⟩ := body_of_closeMeta? closed
      refine opensNone rfl _ ⟨t, rfl, escaped, last⟩ ⟨after, ?_⟩
      rw [closeMeta?_append closed, List.cons_append]
    · exact (split_closing rest).symm

theorem open_in_append {before a front m : Text} (h : before ++ a = front ++ '\x7b' :: m) :
    (∃ t, front = before ++ t ∧ a = t ++ '\x7b' :: m) ∨
      ∃ t, before = front ++ '\x7b' :: t ∧ m = t ++ a := by
  rcases List.append_eq_append_iff.1 h with inside | ⟨t, whole, same⟩
  · exact .inl inside
  · rcases List.cons_eq_append_iff.1 same with ⟨rfl, rfl⟩ | ⟨t', rfl, rfl⟩
    · exact .inl ⟨[], by simpa using whole.symm, rfl⟩
    · exact .inr ⟨t', whole, rfl⟩

/-- Between two pieces no backslash is left that goes with a brace, and no command that began before
ends later. -/
structure Joint (before rest : Text) : Prop where
  unescaped : before.getLast? = some '\\' → ∀ c ∈ rest.head?, isBrace c = false
  apart : ∀ k r, rest = k ++ '\x7d' :: r → ∀ front m, before = front ++ '\x7b' :: m →
    front.getLast? ≠ some '\\' → ¬IsCommand ('\x7b' :: (m ++ k ++ ['\x7d']))

namespace Joint
variable {before a rest : Text}

theorem start (rest : Text) : Joint [] rest := ⟨by simp, by simp⟩

theorem after (h : Joint before (a ++ rest))
    (unescaped : (before ++ a).getLast? = some '\\' → ∀ c ∈ rest.head?, isBrace c = false)
    (apart : ∀ k r, rest = k ++ '\x7d' :: r → ∀ t m, a = t ++ '\x7b' :: m →
      (before ++ t).getLast? ≠ some '\\' → ¬IsCommand ('\x7b' :: (m ++ k ++ ['\x7d']))) :
    Joint (before ++ a) rest := by
  refine ⟨unescaped, fun k r split front m whole front_last command => ?_⟩
  rcases open_in_append whole with ⟨t, rfl, inside⟩ | ⟨t, earlier, rfl⟩
  · exact apart k r split t m inside front_last command
  · refine h.apart (a ++ k) r (by rw [split, List.append_assoc]) front t earlier front_last ?_
    rwa [← List.append_assoc t a k]

theorem after_command (h : Joint before (a ++ rest)) (isCommand : IsCommand a) :
    Joint (before ++ a) rest := by
  obtain ⟨body, rfl, escaped, last⟩ := isCommand
  refine h.after (by simp [List.getLast?_cons]) fun k r _ t m inside front_last command => ?_
  rcases List.cons_eq_append_iff.1 inside with ⟨rfl, same⟩ | ⟨t', rfl, same⟩
  · -- the brace is the one that the piece begins with, and the piece has ended since
    obtain ⟨_, rfl⟩ := List.cons.inj same
    have escaped' := (isCommand_braced.1 command).1
    rw [List.append_assoc] at escaped'
    exact last (escaped'.before_brace rfl)
  · rcases List.append_eq_append_iff.1 same with ⟨u, rfl, back⟩ | ⟨u, rfl, back⟩
    · cases u with
      | nil => cases back
      | cons d u => cases u <;> cases back
    · cases u with
      | nil => cases back
      | cons d u =>
        cases back
        have slash := escaped.before_brace rfl
        rw [List.getLast?_append, List.getLast?_cons, slash] at front_last
        exact front_last rfl

theorem after_text (h : Joint before (a ++ rest)) (isText : IsText a) (whole : ReachesBrace a rest) :
    Joint (before ++ a) rest := by
  have last : (before ++ a).getLast? = a.getLast? := by
    obtain ⟨c, r, rfl⟩ := List.exists_cons_of_ne_nil isText.1
    rw [List.getLast?_append, List.getLast?_cons, Option.some_or]
  refine h.after ?_ fun k r _ t m inside front_last _ => ?_
  · rw [last]
    rcases whole with rfl | ⟨last, _⟩
    · simp
    · exact fun last' => absurd last' last
  · subst inside
    rw [List.getLast?_append, isText.2.before_brace rfl] at front_last
    exact front_last rfl

theorem after_stray {c : Char} (h : Joint before (c :: rest)) (brace : isBrace c = true)
    (opensNone : c = '\x7b' → ∀ a, IsCommand a → ¬a <+: c :: rest) : Joint (before ++ [c]) rest := by
  have slash : c ≠ '\\' := by rintro rfl; cases brace
  refine Joint.after (a := [c]) h (by simp [slash]) fun k r split t m inside _ command => ?_
  rcases List.cons_eq_append_iff.1 inside with ⟨rfl, same⟩ | ⟨t', rfl, same⟩
  · cases same
    refine opensNone rfl _ command ⟨r, ?_⟩
    simp [split]
  · simp at same

theorem getLast?_ne_slash {c : Char} (h : Joint before (c :: rest)) (brace : isBrace c = true) :
    before.getLast? ≠ some '\\' := by
  intro last
  cases brace.symm.trans (h.unescaped last c rfl)

theorem not_inCommand {s : Text} (h : Joint before ('\x7d' :: s)) : ¬InCommand before := by
  rintro ⟨front, m, whole, last, command⟩
  exact h.apart [] s rfl front m whole last (by simpa using command)

end Joint

theorem splits_split {before s : Text} (h : Joint before s) : Splits before s (split s) := by
  fun_induction split s generalizing before with
  | case1 => exact .done before
  | case2 r m rest closed ih =>
    obtain ⟨t, rfl, escaped, last⟩ := body_of_closeMeta? closed
    have isCommand : IsCommand ('\x7b' :: (t ++ ['\x7d'])) := ⟨t, rfl, escaped, last⟩
    rw [closeMeta?_append closed, ← List.cons_append] at h ⊢
    exact .command isCommand (ih (h.after_command isCommand))
  | case3 r unclosed ih =>
    -- a command that begins here would have been closed
    have opensNone : ∀ a, IsCommand a → ¬a <+: '\x7b' :: r := by
      rintro _ ⟨m, rfl, escaped, last⟩ ⟨rest, whole⟩
      have closed := closeMeta?_of_bracesEscaped escaped last rest
      rw [List.cons_append, List.append_assoc] at whole
      rw [← (List.cons.inj whole).2, List.singleton_append, closed] at unclosed
      cases unclosed
    have unescaped : before.getLast? ≠ some '\\' := h.getLast?_ne_slash rfl
    exact .stray rfl unescaped (fun _ => opensNone) (by simp)
      (ih (h.after_stray rfl fun _ => opensNone))
  | case4 r _ ih =>
    have unescaped : before.getLast? ≠ some '\\' := h.getLast?_ne_slash rfl
    exact .stray rfl unescaped (by simp) (fun _ => h.not_inCommand)
      (ih (h.after_stray rfl (by simp)))
  | case5 c r other other' ih =>
    have text : isBrace c = false := by simp [isBrace, other, other']
    have isText : IsText (takeText (c :: r)).1 := ⟨takeText_ne_nil text, bracesEscaped_takeText _⟩
    have whole := reachesBrace_takeText (c :: r)
    have split := takeText_append (c :: r)
    rw [← split] at h
    have here := Splits.text isText whole (ih (h.after_text isText whole))
    rwa [split] at here

def IsBare (s : Text) : Prop := ∀ c ∈ s, isBrace c = false ∧ c ≠ '\\'

instance (s : Text) : Decidable (IsBare s) := List.decidableBAll _ s

namespace IsBare

theorem tail {c : Char} {s : Text} (h : IsBare (c :: s)) : IsBare s := fun d mem =>
  h d (List.mem_cons_of_mem c mem)

theorem append {s t : Text} (h : IsBare s) (h' : IsBare t) : IsBare (s ++ t) := fun c mem =>
  (List.mem_append.1 mem).elim (h c) (h' c)

theorem bracesEscaped {s : Text} (h : IsBare s) : BracesEscaped s := by
  induction s with
  | nil => exact .nil
  | cons c r ih => exact (ih h.tail).cons (h c (List.mem_cons_self ..)).1

theorem isText {s : Text} (h : IsBare s) (ne : s ≠ []) : IsText s := ⟨ne, h.bracesEscaped⟩

theorem isCommand_braced {s : Text} (h : IsBare s) : IsCommand ('\x7b' :: (s ++ ['\x7d'])) :=
  Atom.isCommand_braced.2
    ⟨h.bracesEscaped, fun last => (h '\\' (List.mem_of_getLast? last)).2 rfl⟩

end IsBare

theorem unescapeBrace_of_isBare (brace : Char) {s : Text} (bare : IsBare s) :
    unescapeBrace brace s = s := by
  induction s with
  | nil => rfl
  | cons c r ih =>
    have unescaped := (bare c (List.mem_cons_self ..)).2
    rw [unescapeBrace.eq_3 _ _ _ (by simp [unescaped]), ih bare.tail]

theorem unescape_of_isBare {s : Text} (bare : IsBare s) : unescape s = s := by
  rw [unescape, unescapeBrace_of_isBare _ bare, unescapeBrace_of_isBare _ bare]

def consAtom (a : Text) : List Text → List Text
  | [] => [a]
  | b :: r =>
    if a.head? ≠ some '\x7b' ∧ b.head? ≠ some '\x7b' then (a ++ b) :: r else a :: b :: r

/-- The atoms with neighbouring texts merged. -/
def joinTexts (atoms : List Text) : List Text := atoms.foldr consAtom []

theorem head?_of_isCommand {a : Text} (h : IsCommand a) : a.head? = some '\x7b' := by
  obtain ⟨m, rfl, _⟩ := h
  rfl

theorem head?_of_isText {a : Text} (h : IsText a) : a.head? ≠ some '\x7b' := by
  intro brace
  cases h.2.1 '\x7b' brace

theorem consAtom_of_isCommand {a : Text} (h : IsCommand a) (atoms : List Text) :
    consAtom a atoms = a :: atoms := by
  cases atoms with
  | nil => rfl
  | cons b r => simp [consAtom, head?_of_isCommand h]

theorem Splits.isAtom {before rest : Text} {atoms : List Text} (h : Splits before rest atoms) :
    ∀ a ∈ atoms, IsCommand a ∨ IsText a := by
  induction h with
  | done => simp
  | command isCommand _ ih => exact List.forall_mem_cons.2 ⟨.inl isCommand, ih⟩
  | text isText _ _ ih => exact List.forall_mem_cons.2 ⟨.inr isText, ih⟩
  | stray _ _ _ _ _ ih => exact ih

theorem split_text_flatten {a : Text} (h : IsText a) (last : a.getLast? ≠ some '\\')
    {atoms : List Text} (isAtom : ∀ b ∈ atoms, IsCommand b ∨ IsText b) :
    split (a ++ atoms.flatten) = consAtom a (split atoms.flatten) := by
  have joint : a.getLast? = some '\\' → ∀ c ∈ atoms.flatten.head?, isBrace c = false := fun last' =>
    absurd last' last
  rw [split_text_append h joint]
  cases atoms with
  | nil => simp [split, takeText, consAtom]
  | cons b bs =>
    rw [List.flatten_cons]
    rcases isAtom b (List.mem_cons_self ..) with command | text
    · have brace : ∀ c ∈ (b ++ bs.flatten).head?, isBrace c = true := by
        rw [List.head?_append, head?_of_isCommand command]
        simp [isBrace]
      rw [takeText_of_brace brace, split_command_append command, List.append_nil]
      simp [consAtom, head?_of_isCommand command]
    · obtain ⟨c, r, rfl⟩ := List.exists_cons_of_ne_nil text.1
      have first := text.2.head
      have taken : IsText (takeText (c :: (r ++ bs.flatten))).1 :=
        ⟨takeText_ne_nil first, bracesEscaped_takeText _⟩
      rw [List.cons_append, split_of_text first]
      simp [consAtom, head?_of_isText h, head?_of_isText taken]

/-- The atoms, written one after the other, divide in the same way, with neighbouring texts merged. -/
theorem Splits.split_flatten {before rest : Text} {atoms : List Text} (h : Splits before rest atoms) :
    split atoms.flatten = joinTexts atoms := by
  induction h with
  | done => simp [joinTexts, split]
  | command isCommand _ ih =>
    rw [List.flatten_cons, split_command_append isCommand, ih]
    exact (consAtom_of_isCommand isCommand _).symm
  | @text before a rest atoms isText whole others ih =>
    rw [List.flatten_cons, joinTexts, List.foldr_cons, ← joinTexts, ← ih]
    rcases whole with rfl | ⟨last, _⟩
    · rw [others.eq_split, split, List.flatten_nil, split, split_text isText (.inl rfl), split]
      rfl
    · exact split_text_flatten isText last others.isAtom
  | stray _ _ _ _ _ ih => exact ih

/-- The conditions leave one list of atoms for every text, and its atoms, written one after the
other, divide in the same way again. -/
theorem splits_iff_eq_split (english : Text) :
    (∀ atoms, Splits [] english atoms ↔ atoms = split english) ∧
      split (split english).flatten = joinTexts (split english) := by
  have found : Splits [] english (split english) := splits_split (.start english)
  refine ⟨fun atoms => ⟨Splits.eq_split, ?_⟩, found.split_flatten⟩
  rintro rfl
  exact found

/-- An escaped brace stays in its text, a brace that opens no command is dropped, and the texts on
both sides of it become one. -/
example : split "a\\\x7b\x7bb\x7bc\x7d\x7dd".toList = ["a\\\x7b", "b", "\x7bc\x7d", "d"].map String.toList ∧
    joinTexts (split "a\\\x7b\x7bb\x7bc\x7d\x7dd".toList) =
      ["a\\\x7bb", "\x7bc\x7d", "d"].map String.toList := by
  decide +kernel

end Stenotype.Atom
