import Stenotype.Proofs.Ink
import Stenotype.Proofs.KeyGrammar
import Stenotype.Proofs.Run
import Stenotype.Session

/-!
# What a printed session says

An instruction is printed as a keyword and an argument. Counts are digits, strings are quoted so
that they hold no line break, and what follows the arrow of a combination is made of key names. Only
the name of a command and a combination are printed as they are. A combination has no equals sign,
so the arrow after it is found; a command may hold anything, and one that holds a line break can be
taken for several instructions. Without such commands the text of a session has one reading.
-/

set_option autoImplicit false

namespace Stenotype

namespace Text

theorem append_cons_inj {sep : Char} {a b x y : Text} (ha : sep ∉ a) (hb : sep ∉ b)
    (same : a ++ sep :: x = b ++ sep :: y) : a = b ∧ x = y := by
  induction a generalizing b with
  | nil =>
    cases b with
    | nil => exact ⟨rfl, (List.cons.inj same).2⟩
    | cons d b => exact absurd (List.mem_cons.2 (.inl (List.cons.inj same).1)) hb
  | cons c a ih =>
    cases b with
    | nil => exact absurd (List.mem_cons.2 (.inl (List.cons.inj same).1.symm)) ha
    | cons d b =>
      rw [List.mem_cons, not_or] at ha hb
      obtain ⟨rfl, rest⟩ := List.cons.inj same
      obtain ⟨rfl, after⟩ := ih ha.2 hb.2 rest
      exact ⟨rfl, after⟩

theorem hexValue?_digitChar {d : Nat} (small : d < 16) : hexValue? d.digitChar = some d := by
  have all : ∀ d < 16, hexValue? (Nat.digitChar d) = some d := by decide
  exact all d small

theorem hexDigits_cases (n : Nat) :
    (n < 16 ∧ hexDigits n = [n.digitChar]) ∨
      (n / 16 < n ∧ hexDigits n = hexDigits (n / 16) ++ [(n % 16).digitChar]) := by
  by_cases small : n < 16
  · exact .inl ⟨small, Nat.toDigits_of_lt_base small⟩
  · exact .inr ⟨Nat.div_lt_self (by omega) (by decide),
      Nat.toDigits_of_base_le (by decide) (Nat.le_of_not_lt small)⟩

theorem hexNumber?_hexDigits (n : Nat) : hexNumber? (hexDigits n) = some n := by
  induction n using Nat.strongRecOn with
  | _ n ih =>
    rcases hexDigits_cases n with ⟨small, digits⟩ | ⟨less, digits⟩
    · rw [digits, hexNumber?, List.foldlM_cons, hexValue?_digitChar small]
      simp
    · have front := ih (n / 16) less
      rw [hexNumber?] at front
      rw [digits, hexNumber?, List.foldlM_append, front]
      simp only [Option.bind_eq_bind, Option.bind_some, List.foldlM_cons, List.foldlM_nil,
        hexValue?_digitChar (Nat.mod_lt n (by decide)), Option.map_some, Nat.div_add_mod,
        Option.pure_def]

theorem mem_hexDigits {n : Nat} {c : Char} (h : c ∈ hexDigits n) : ∃ d, c = Nat.digitChar d := by
  induction n using Nat.strongRecOn with
  | _ n ih =>
    rcases hexDigits_cases n with ⟨small, digits⟩ | ⟨less, digits⟩ <;> rw [digits] at h
    · exact ⟨n, List.mem_singleton.1 h⟩
    · rcases List.mem_append.1 h with h | h
      · exact ih (n / 16) less h
      · exact ⟨n % 16, List.mem_singleton.1 h⟩

theorem ofNat_injective {n m : Nat} (same : ofNat n = ofNat m) : n = m := by
  have read := congrArg (fun digits => Nat.ofDigitChars 10 digits 0) same
  simpa only [ofNat, Nat.ofDigitChars_ten_toDigits] using read

theorem break_notMem_ofNat (n : Nat) : '\n' ∉ ofNat n := by
  intro h
  exact absurd (Nat.isDigit_of_mem_toDigits (by decide) (by decide) h) (by decide)

def readQuoted? : Text → Option (Char × Text)
  | '\\' :: '0' :: r => some ('\x00', r)
  | '\\' :: 't' :: r => some ('\t', r)
  | '\\' :: 'r' :: r => some ('\r', r)
  | '\\' :: 'n' :: r => some ('\n', r)
  | '\\' :: '\\' :: r => some ('\\', r)
  | '\\' :: '"' :: r => some ('"', r)
  | '\\' :: 'u' :: '\x7b' :: r =>
    (hexNumber? (r.takeWhile (· ≠ '\x7d'))).map fun n =>
      (Char.ofNat n, (r.dropWhile (· ≠ '\x7d')).tail)
  | c :: r => if c = '"' then none else some (c, r)
  | [] => none

theorem readQuoted?_escapeByNumber (c : Char) (r : Text) :
    readQuoted? (escapeByNumber c ++ r) = some (c, r) := by
  -- the brace at the end is no digit, so the number ends there
  have inside : ∀ d ∈ hexDigits c.toNat, decide (d ≠ '\x7d') = true := by
    intro d hd
    obtain ⟨n, rfl⟩ := mem_hexDigits hd
    exact decide_eq_true (Nat.digitChar_ne '\x7d' (by decide))
  have shape : escapeByNumber c ++ r =
      '\\' :: 'u' :: '\x7b' :: (hexDigits c.toNat ++ '\x7d' :: r) := by
    simp [escapeByNumber]
  rw [shape, readQuoted?, List.takeWhile_append_of_pos inside, List.dropWhile_append_of_pos inside]
  simp [hexNumber?_hexDigits]

theorem readQuoted?_quoteChar (c : Char) (r : Text) :
    readQuoted? (quoteChar '"' c ++ r) = some (c, r) := by
  unfold quoteChar
  split
  · next h => rw [h]; rfl
  split
  · next h => rw [h]; rfl
  split
  · next h => rw [h]; rfl
  split
  · next h => rw [h]; rfl
  split
  · next h => rw [h]; rfl
  next backslash =>
  split
  · next h => rw [h]; rfl
  next quote =>
  split
  · exact readQuoted?_escapeByNumber c r
  · simp [readQuoted?, backslash, quote]

theorem quoted_append_inj {s t x y : Text} (same : quoted s ++ x = quoted t ++ y) :
    s = t ∧ x = y := by
  have inside : s.flatMap (quoteChar '"') ++ '"' :: x = t.flatMap (quoteChar '"') ++ '"' :: y := by
    simpa [quoted] using same
  clear same
  have ends (r : Text) : readQuoted? ('"' :: r) = none := by simp [readQuoted?]
  induction s generalizing t with
  | nil =>
    cases t with
    | nil => exact ⟨rfl, (List.cons.inj inside).2⟩
    | cons d t =>
      have read := congrArg readQuoted? inside
      rw [List.flatMap_nil, List.nil_append, ends, List.flatMap_cons, List.append_assoc,
        readQuoted?_quoteChar] at read
      cases read
  | cons c s ih =>
    have read := congrArg readQuoted? inside
    rw [List.flatMap_cons, List.append_assoc, readQuoted?_quoteChar] at read
    cases t with
    | nil =>
      rw [List.flatMap_nil, List.nil_append, ends] at read
      cases read
    | cons d t =>
      rw [List.flatMap_cons, List.append_assoc, readQuoted?_quoteChar] at read
      obtain ⟨rfl, rest⟩ := Prod.mk.inj (Option.some.inj read)
      obtain ⟨rfl, after⟩ := ih rest
      exact ⟨rfl, after⟩

theorem break_notMem_escapeByNumber (c : Char) : '\n' ∉ escapeByNumber c := by
  intro h
  simp only [escapeByNumber, List.mem_append] at h
  rcases h with (h | h) | h
  · exact absurd h (by decide)
  · obtain ⟨d, same⟩ := mem_hexDigits h
    exact Nat.digitChar_ne '\n' (by decide) same.symm
  · exact absurd h (by decide)

theorem break_notMem_quoteChar (c : Char) : '\n' ∉ quoteChar '"' c := by
  by_cases newline : c = '\n'
  · rw [newline]
    decide
  · have alone : '\n' ∉ [c] := fun h => newline (List.mem_singleton.1 h).symm
    unfold quoteChar
    repeat' split
    all_goals first | decide | exact break_notMem_escapeByNumber c | exact alone

theorem break_notMem_quoted (s : Text) : '\n' ∉ quoted s := by
  intro h
  simp only [quoted, List.mem_cons, List.mem_append, List.mem_flatMap] at h
  rcases h with h | ⟨c, _, here⟩ | h
  · exact absurd h (by decide)
  · exact break_notMem_quoteChar c here
  · simp at h

theorem break_notMem_lowerChar {c : Char} (other : c ≠ '\n') : '\n' ∉ lowerChar c := by
  unfold lowerChar
  split
  · next ascii =>
    have all : ∀ n < 0x80, Char.ofNat n ≠ '\n' → '\n' ∉ [(Char.ofNat n).toLower] := by
      decide
    exact forall_ascii (P := fun c => c ≠ '\n' → '\n' ∉ [c.toLower]) all ascii other
  · rcases mapCase_cases (fun _ => List.mem_append_right _) (fun _ => List.mem_append_right _) c
      with stays | ⟨_, ink⟩
    · rw [stays]
      exact fun h => other (List.mem_singleton.1 h).symm
    · exact fun h => absurd (ink '\n' h) (by decide)

theorem break_notMem_lowerAfter {s : Text} (before : Text) (h : '\n' ∉ s) :
    '\n' ∉ lowerAfter before s := by
  induction s generalizing before with
  | nil => exact h
  | cons c r ih =>
    rw [List.mem_cons, not_or] at h
    obtain ⟨other, rest⟩ := h
    have image : '\n' ∉ if c = 'Σ' then
        if meetsCased before && !meetsCased r then ['ς'] else ['σ'] else lowerChar c := by
      split
      · split <;> decide
      · exact break_notMem_lowerChar (Ne.symm other)
    rw [lowerAfter, List.mem_append, not_or]
    exact ⟨image, ih _ rest⟩

end Text

def KeyEvent.key : KeyEvent → Text
  | press key | release key => key

namespace KeyCombo

def isComboChar (c : Char) : Bool := Text.isBlank c || isKeyChar c || c = '(' || c = ')'

theorem Combo.Written.isComboChar {c : Combo} {s : Text} (h : c.Written s) :
    ∀ d ∈ s, isComboChar d = true := by
  have blanks {s : Text} (isBlanks : IsBlanks s) : ∀ d ∈ s, KeyCombo.isComboChar d = true := by
    intro d hd
    simp [KeyCombo.isComboChar, isBlanks d hd]
  have names {s : Text} (isName : IsName s) : ∀ d ∈ s, KeyCombo.isComboChar d = true := by
    intro d hd
    simp [KeyCombo.isComboChar, isName.2 d hd]
  induction h with
  | done isBlanks => exact blanks isBlanks
  | strike isBlanks isName _ _ ih =>
    simp only [List.forall_mem_append]
    exact ⟨⟨blanks isBlanks, names isName⟩, ih⟩
  | hold isBlanks isName isGap _ _ ih ih' =>
    simp only [List.forall_mem_append, List.forall_mem_cons]
    exact ⟨⟨⟨blanks isBlanks, names isName⟩, blanks isGap⟩, by decide, ih, by decide, ih'⟩

theorem Combo.Written.key_of_mem {c : Combo} {s : Text} (h : c.Written s) :
    ∀ e ∈ c.events, ∃ name, IsName name ∧ e.key = Text.lower name := by
  induction h with
  | done => exact fun e he => nomatch he
  | strike _ isName _ _ ih =>
    simp only [Combo.events, List.forall_mem_cons]
    exact ⟨⟨_, isName, rfl⟩, ⟨_, isName, rfl⟩, ih⟩
  | hold _ isName _ _ _ ih ih' =>
    simp only [Combo.events, List.forall_mem_cons, List.forall_mem_append]
    exact ⟨⟨_, isName, rfl⟩, ih, ⟨_, isName, rfl⟩, ih'⟩

theorem break_notMem_key {combo : Text} {es : List KeyEvent} (ok : parse combo = .ok es) :
    ∀ e ∈ es, '\n' ∉ e.key := by
  have noKey : isKeyChar '\n' = false := by decide
  obtain ⟨c, written, _, rfl⟩ := (parse_eq_ok_iff combo es).1 ok
  intro e he
  obtain ⟨name, isName, key⟩ := written.key_of_mem e he
  rw [key]
  refine Text.break_notMem_lowerAfter [] fun h => ?_
  cases noKey.symm.trans (isName.2 '\n' h)

theorem equals_notMem {combo : Text} {es : List KeyEvent} (ok : parse combo = .ok es) :
    '=' ∉ combo ++ [' '] := by
  intro h
  rcases List.mem_append.1 h with h | h
  · obtain ⟨c, written, _⟩ := (parse_eq_ok_iff combo es).1 ok
    exact absurd (written.isComboChar '=' h) (by decide)
  · exact absurd h (by decide)

def spelled (combo : Text) : Text :=
  match parse combo with
  | .ok events => Text.joinWith [' '] (events.map KeyEvent.printed)
  | .error _ => []

end KeyCombo

namespace Text

theorem mem_joinWith {sep : Text} {ws : List Text} {c : Char} (h : c ∈ joinWith sep ws) :
    c ∈ sep ∨ ∃ w ∈ ws, c ∈ w := by
  fun_induction joinWith sep ws with
  | case1 => cases h
  | case2 w => exact .inr ⟨w, List.mem_singleton_self w, h⟩
  | case3 w ws _ ih =>
    rcases List.mem_append.1 h with h | h
    · rcases List.mem_append.1 h with h | h
      · exact .inr ⟨w, List.mem_cons_self .., h⟩
      · exact .inl h
    · rcases ih h with h | ⟨v, hv, h⟩
      · exact .inl h
      · exact .inr ⟨v, List.mem_cons_of_mem _ hv, h⟩

theorem splitOn_append_cons {sep : Char} {s : Text} (h : sep ∉ s) (r : Text) :
    splitOn sep (s ++ sep :: r) = s :: splitOn sep r := by
  induction s with
  | nil => rw [List.nil_append, splitOn, if_pos rfl]
  | cons c s ih =>
    rw [List.mem_cons, not_or] at h
    rw [List.cons_append, splitOn, if_neg (Ne.symm h.1), ih h.2]

theorem notMem_of_mem_splitOn {sep : Char} {s w : Text} (h : w ∈ splitOn sep s) : sep ∉ w := by
  fun_induction splitOn sep s generalizing w with
  | case1 => simp_all
  | case2 r ih =>
    rcases List.mem_cons.1 h with rfl | h
    · simp
    · exact ih h
  | case3 c r other none ih =>
    rw [List.mem_singleton.1 h]
    simpa using Ne.symm other
  | case4 c r other v vs eq ih =>
    rcases List.mem_cons.1 h with rfl | h
    · have rest : sep ∉ v := ih (by rw [eq]; exact List.mem_cons_self ..)
      simp [Ne.symm other, rest]
    · exact ih (by rw [eq]; exact List.mem_cons_of_mem _ h)

end Text

namespace KeyCombo

theorem break_notMem_spelled (combo : Text) : '\n' ∉ spelled combo := by
  intro h
  unfold spelled at h
  cases ok : parse combo with
  | error e => rw [ok] at h; cases h
  | ok events =>
    rw [ok] at h
    rcases Text.mem_joinWith h with h | ⟨w, hw, h⟩
    · exact absurd h (by decide)
    · obtain ⟨e, he, rfl⟩ := List.mem_map.1 hw
      have quiet := break_notMem_key ok e he
      cases e <;> simp_all [KeyEvent.printed, KeyEvent.key]

end KeyCombo

namespace Instruction

def keyword : Instruction → String
  | backspaces _ => "backspace"
  | string _ => "string"
  | keyCombo _ => "combo"
  | engineCommand _ => "command"

def argument : Instruction → Text
  | backspaces n => Text.ofNat n
  | string s => Text.quoted s
  | keyCombo combo => combo ++ ' ' :: '=' :: '>' :: ' ' :: KeyCombo.spelled combo
  | engineCommand name => name

def line (i : Instruction) : Text := i.keyword.toList ++ ' ' :: i.argument

def unquoted : Instruction → Text
  | keyCombo combo => combo
  | engineCommand name => name
  | _ => []

def parses : Instruction → Bool
  | keyCombo combo => (KeyCombo.parse combo).isOk
  | _ => true

theorem ok_of_parses {combo : Text} (h : (keyCombo combo).parses = true) :
    ∃ events, KeyCombo.parse combo = .ok events := by
  unfold parses at h
  cases parse : KeyCombo.parse combo with
  | ok events => exact ⟨events, rfl⟩
  | error e => simp [parse, Except.isOk, Except.toBool] at h

def hasPlainName : Instruction → Bool
  | engineCommand name => '\n' ∉ name
  | _ => true

theorem printed_eq {i : Instruction} (parse : i.parses = true) :
    i.printed = .ok (i.line ++ ['\n']) := by
  cases i with
  | backspaces n => simp [printed, line, keyword, argument]
  | string s => simp [printed, line, keyword, argument]
  | keyCombo combo =>
    obtain ⟨events, ok⟩ := ok_of_parses parse
    simp [printed, line, keyword, argument, ok, KeyCombo.spelled]
  | engineCommand name => simp [printed, line, keyword, argument]

theorem notMem_keyword (i : Instruction) : '\n' ∉ i.keyword.toList ∧ ' ' ∉ i.keyword.toList := by
  cases i <;> simp [keyword]

theorem break_mem_line (i : Instruction) : '\n' ∈ i.line ↔ '\n' ∈ i.unquoted := by
  have keyword := (notMem_keyword i).1
  cases i with
  | backspaces n =>
    simp [line, argument, unquoted, keyword, Text.break_notMem_ofNat]
  | string s =>
    simp [line, argument, unquoted, keyword, Text.break_notMem_quoted]
  | keyCombo combo =>
    simp [line, argument, unquoted, keyword, KeyCombo.break_notMem_spelled]
  | engineCommand name =>
    simp [line, argument, unquoted, keyword]

/-- A line that is followed by a break tells the instruction and where the next line begins. -/
theorem line_append_inj {i j : Instruction} {x y : Text} (parse : i.parses = true)
    (parse' : j.parses = true) (plain : i.hasPlainName = true) (plain' : j.hasPlainName = true)
    (same : i.line ++ '\n' :: x = j.line ++ '\n' :: y) : i = j ∧ x = y := by
  rw [line, line, List.append_assoc, List.append_assoc, List.cons_append, List.cons_append] at same
  obtain ⟨kind, same⟩ := Text.append_cons_inj (notMem_keyword i).2 (notMem_keyword j).2 same
  have kind := String.toList_inj.1 kind
  cases i with
  | backspaces n =>
    cases j with
    | backspaces m =>
      obtain ⟨count, rest⟩ :=
        Text.append_cons_inj (Text.break_notMem_ofNat n) (Text.break_notMem_ofNat m) same
      exact ⟨congrArg backspaces (Text.ofNat_injective count), rest⟩
    | string _ | keyCombo _ | engineCommand _ => simp [keyword] at kind
  | string s =>
    cases j with
    | string t =>
      obtain ⟨rfl, rest⟩ := Text.quoted_append_inj same
      exact ⟨rfl, (List.cons.inj rest).2⟩
    | backspaces _ | keyCombo _ | engineCommand _ => simp [keyword] at kind
  | keyCombo combo =>
    cases j with
    | keyCombo combo' =>
      obtain ⟨events, here⟩ := ok_of_parses parse
      obtain ⟨events', there⟩ := ok_of_parses parse'
      -- a combination may hold a line break, but no equals sign
      have arrow (combo : Text) (x : Text) :
          (keyCombo combo).argument ++ '\n' :: x =
            (combo ++ [' ']) ++ '=' :: '>' :: ' ' :: (KeyCombo.spelled combo ++ '\n' :: x) := by
        simp [argument]
      rw [arrow, arrow] at same
      obtain ⟨names, rest⟩ := Text.append_cons_inj (KeyCombo.equals_notMem here)
        (KeyCombo.equals_notMem there) same
      obtain rfl := List.append_cancel_right names
      exact ⟨rfl, by simpa using rest⟩
    | backspaces _ | string _ | engineCommand _ => simp [keyword] at kind
  | engineCommand name =>
    cases j with
    | engineCommand name' =>
      obtain ⟨rfl, rest⟩ :=
        Text.append_cons_inj (of_decide_eq_true plain) (of_decide_eq_true plain') same
      exact ⟨rfl, rest⟩
    | backspaces _ | string _ | keyCombo _ => simp [keyword] at kind

end Instruction

namespace Session
open Instruction

theorem print_eq {is : List Instruction} (parse : ∀ i ∈ is, i.parses = true) :
    print is = is.flatMap fun i => i.line ++ ['\n'] := by
  have from_here (out : Text) :
      (printer.sendEach out is).1 = out ++ is.flatMap fun i => i.line ++ ['\n'] := by
    induction is generalizing out with
    | nil => exact (List.append_nil out).symm
    | cons i is ih =>
      obtain ⟨here, later⟩ := List.forall_mem_cons.1 parse
      have sent : printer.send out i = (out ++ (i.line ++ ['\n']), none) := by
        simp only [printer, printed_eq here]
      rw [List.flatMap_cons, ← List.append_assoc, ← ih later, Sink.sendEach, sent]
  exact from_here []

theorem flatMap_line_inj {as bs : List Instruction} (parse : ∀ i ∈ as, i.parses = true)
    (parse' : ∀ i ∈ bs, i.parses = true) (plain : ∀ i ∈ as, i.hasPlainName = true)
    (plain' : ∀ i ∈ bs, i.hasPlainName = true)
    (same : (as.flatMap fun i => i.line ++ ['\n']) = bs.flatMap fun i => i.line ++ ['\n']) :
    as = bs := by
  induction as generalizing bs with
  | nil =>
    cases bs with
    | nil => rfl
    | cons j bs => simp at same
  | cons i as ih =>
    cases bs with
    | nil => simp at same
    | cons j bs =>
      rw [List.forall_mem_cons] at parse parse' plain plain'
      simp only [List.flatMap_cons, List.append_assoc, List.singleton_append] at same
      obtain ⟨rfl, rest⟩ := line_append_inj parse.1 parse'.1 plain.1 plain'.1 same
      rw [ih parse.2 parse'.2 plain.2 plain'.2 rest]

theorem splitOn_flatMap_line {is : List Instruction} (single : ∀ i ∈ is, '\n' ∉ i.line) :
    Text.splitOn '\n' (is.flatMap fun i => i.line ++ ['\n']) = is.map line ++ [[]] := by
  induction is with
  | nil => rfl
  | cons i is ih =>
    obtain ⟨here, later⟩ := List.forall_mem_cons.1 single
    rw [List.flatMap_cons, List.append_assoc, List.singleton_append,
      Text.splitOn_append_cons here, ih later]
    rfl

/-- Where combinations parse, a printed text has one reading, as long as no name of a command holds
a line break; and it has one line for each instruction exactly if neither the name of a command nor
a combination holds one. -/
theorem print_has_one_reading {as bs : List Instruction} (parse : ∀ i ∈ as, i.parses = true)
    (parse' : ∀ i ∈ bs, i.parses = true) :
    ((∀ i ∈ as ++ bs, i.hasPlainName = true) → print as = print bs → as = bs) ∧
      (Text.splitOn '\n' (print as) = as.map line ++ [[]] ↔ ∀ i ∈ as, '\n' ∉ i.unquoted) := by
  rw [print_eq parse, print_eq parse']
  refine ⟨fun plain => ?_, fun lines i hi h => ?_, fun single => ?_⟩
  · rw [List.forall_mem_append] at plain
    exact flatMap_line_inj parse parse' plain.1 plain.2
  · have piece : i.line ∈ as.map line ++ [[]] :=
      List.mem_append_left _ (List.mem_map.2 ⟨i, hi, rfl⟩)
    rw [← lines] at piece
    exact Text.notMem_of_mem_splitOn piece ((break_mem_line i).2 h)
  · exact splitOn_flatMap_line fun i hi h => single i hi ((break_mem_line i).1 h)

def quotedBreak : List Instruction :=
  [.keyCombo "control_l(c)".toList, .string "lookup\"\nbackspace 4".toList,
    .engineCommand "lookup".toList]

def realBackspaces : List Instruction :=
  [.keyCombo "control_l(c)".toList, .string "lookup".toList, .backspaces 4,
    .engineCommand "lookup".toList]

theorem print_quotedBreak :
    ((∀ i ∈ quotedBreak, i.parses = true) ∧ ∀ i ∈ realBackspaces, i.parses = true) ∧
      (∀ i ∈ quotedBreak ++ realBackspaces, i.hasPlainName = true) ∧
      print quotedBreak ≠ print realBackspaces ∧
      Text.splitOn '\n' (print quotedBreak) = quotedBreak.map line ++ [[]] := by
  have parse : ∀ i ∈ quotedBreak, i.parses = true := by decide +kernel
  have parse' : ∀ i ∈ realBackspaces, i.parses = true := by decide +kernel
  have plain : ∀ i ∈ quotedBreak ++ realBackspaces, i.hasPlainName = true := by decide +kernel
  have other : quotedBreak ≠ realBackspaces := by decide
  obtain ⟨reading, lines⟩ := print_has_one_reading parse parse'
  have quoted : ∀ i ∈ quotedBreak, '\n' ∉ i.unquoted := by decide +kernel
  exact ⟨⟨parse, parse'⟩, plain, fun same => other (reading plain same), lines.2 quoted⟩

/-- The name of a command may hold a line break, and what comes after it is printed as an
instruction of its own. -/
theorem command_printed_as_two :
    let two := [Instruction.engineCommand "lookup".toList, .backspaces 4]
    let one := [Instruction.engineCommand "lookup\nbackspace 4".toList]
    ((Formatter.new {} .empty).format []
        [.ofEnglish "\x7bPLOVER:lookup\nbackspace 4\x7d"] none).2 = one ∧
      print one = print two ∧ one ≠ two ∧
      print one = "command lookup\nbackspace 4\n".toList := by
  exact ⟨by decide +kernel, by decide +kernel, by decide, by decide +kernel⟩

end Session
end Stenotype
