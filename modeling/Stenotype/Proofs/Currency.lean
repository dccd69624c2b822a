import Stenotype.Proofs.Escaping
import Stenotype.Proofs.LastWord

/-!
# Amounts

A whole number that is made an amount keeps its value: it is written as its canonical numeral with
commas between groups of three digits. Nothing before the number or after it changes, and an amount
stays what it is when it is made one again.
-/

set_option autoImplicit false

namespace Stenotype

namespace Context

theorem edit_retroCurrency {c : Context} {head word tail amount : Text}
    (h : Text.IsLastWord head word tail) (output : c.output = head ++ word ++ tail)
    (here : amount? (Text.substitute ',' [] word) = some amount) (form : Text) :
    (c.retroCurrency form).edit c.output = head ++ Text.substitute 'c' amount form ++ tail := by
  rw [retroCurrency, lastWordWithTail?_of_isLastWord h output]
  simp only [here, Action.edit]
  rw [output, List.append_assoc head, Text.dropLast_append_length, List.append_assoc]

end Context

namespace Decimal

/-- A sign, if there is one, and digits that stand for `n`. -/
structure IsNumeral (sign digits : Text) (n : Int) : Prop where
  all : ∀ c ∈ digits, c.isDigit = true
  ne : digits ≠ []
  value : (sign = [] ∨ sign = ['+']) ∧ n = valueOf digits ∨
    sign = ['-'] ∧ n = -(valueOf digits : Int)

/-- There is a sign only before a number below zero, and no zero before other digits. -/
structure IsCanonical (sign digits : Text) (n : Int) : Prop extends IsNumeral sign digits n where
  signed : sign = if n < 0 then ['-'] else []
  least : digits.head? = some '0' → digits = ['0']

/-- The digits in threes from the right, with a comma before every three but at the beginning. -/
def InThrees (digits grouped : Text) : Prop :=
  ∃ (first : Text) (threes : List Text), digits = first ++ threes.flatten ∧
    grouped = first ++ threes.flatMap (',' :: ·) ∧ first ≠ [] ∧ first.length ≤ 3 ∧
    ∀ g ∈ threes, g.length = 3

theorem readSign_of_digits {digits : Text} (all : ∀ c ∈ digits, c.isDigit = true) :
    readSign digits = (false, digits) := by
  unfold readSign
  split
  · cases all '-' (List.mem_cons_self ..)
  · cases all '+' (List.mem_cons_self ..)
  · rfl

theorem IsNumeral.integer? {sign digits : Text} {n : Int} (h : IsNumeral sign digits n) :
    integer? (sign ++ digits) = some n := by
  have wellFormed : (digits.isEmpty || !digits.all Char.isDigit) = false := by
    simpa using ⟨h.ne, h.all⟩
  rcases h.value with ⟨rfl | rfl, rfl⟩ | ⟨rfl, rfl⟩
  · rw [List.nil_append, Decimal.integer?, readSign_of_digits h.all]
    simp [wellFormed]
  · rw [Decimal.integer?]
    simp [readSign, wellFormed]
  · rw [Decimal.integer?]
    simp [readSign, wellFormed]

theorem toDigits_of_zero_first {n : Nat} (zero : (Nat.toDigits 10 n).head? = some '0') :
    Nat.toDigits 10 n = ['0'] := by
  induction n using Nat.strongRecOn with
  | _ n ih =>
    by_cases small : n < 10
    · rw [Nat.toDigits_of_lt_base small, List.head?_cons, Option.some.injEq] at zero
      rw [Nat.toDigits_of_lt_base small, zero]
    · rw [Nat.toDigits_of_base_le (by decide) (Nat.le_of_not_lt small),
        List.head?_append_of_ne_nil _ Nat.toDigits_ne_nil] at zero
      have front := congrArg (Nat.ofDigitChars 10 · 0) (ih (n / 10) (by omega) zero)
      rw [Nat.ofDigitChars_ten_toDigits] at front
      have tenth : n / 10 = 0 := front
      omega

def minus (n : Int) : Text := if n < 0 then ['-'] else []

theorem ofInt_eq (n : Int) : ofInt n = minus n ++ Text.ofNat n.natAbs := by
  cases n with
  | ofNat n => simp [ofInt, minus]
  | negSucc n => simp [ofInt, minus]

theorem isCanonical_ofInt (n : Int) : IsCanonical (minus n) (Text.ofNat n.natAbs) n where
  all _ mem := Nat.isDigit_of_mem_toDigits (by decide) (by decide) mem
  ne := Nat.toDigits_ne_nil
  value := by
    have value : valueOf (Text.ofNat n.natAbs) = n.natAbs := Nat.ofDigitChars_ten_toDigits
    rw [value, minus]
    split
    · exact .inr ⟨rfl, by omega⟩
    · exact .inl ⟨.inl rfl, by omega⟩
  signed := rfl
  least := toDigits_of_zero_first

theorem inThrees_group {digits : Text} (ne : digits ≠ []) : InThrees digits (group digits) := by
  induction digits with
  | nil => cases ne rfl
  | cons c r ih =>
    by_cases last : r = []
    · exact ⟨[c], [], by rw [last]; rfl, by rw [last]; rfl, List.cons_ne_nil c [], by simp, nofun⟩
    obtain ⟨first, threes, whole, grouped, ne, le, three⟩ := ih last
    have length : r.length = first.length + 3 * threes.length := by
      rw [whole, List.length_append, List.length_flatten, List.map_congr_left three]
      simp [Nat.mul_comm]
    have pos := List.length_pos_iff.2 ne
    rw [group]
    -- The digit stands alone before the comma where the rest comes out even.
    by_cases full : r.length % 3 = 0
    · refine ⟨[c], first :: threes, ?_, ?_, List.cons_ne_nil c [], by simp, ?_⟩
      · rw [whole]
        rfl
      · rw [if_pos (by simp [full, last]), grouped]
        rfl
      · exact List.forall_mem_cons.2 ⟨by omega, three⟩
    · refine ⟨c :: first, threes, ?_, ?_, List.cons_ne_nil c first, ?_, three⟩
      · rw [whole]
        rfl
      · rw [if_neg (by simp [full]), grouped]
        rfl
      · rw [List.length_cons]
        omega

def amountOf (n : Int) : Text := minus n ++ group (Text.ofNat n.natAbs)

theorem notMem_ofNat {c : Char} (other : c.isDigit = false) (n : Nat) : c ∉ Text.ofNat n := by
  intro mem
  rw [Nat.isDigit_of_mem_toDigits (by decide) (by decide) mem] at other
  cases other

theorem groupSigned_ofInt (n : Int) : groupSigned (ofInt n) = amountOf n := by
  have whole : (Text.ofNat n.natAbs).takeWhile (· ≠ '.') = Text.ofNat n.natAbs := by
    refine List.takeWhile_eq_self_iff.2 fun c mem => decide_eq_true ?_
    rintro rfl
    exact notMem_ofNat (by decide) _ mem
  rw [ofInt_eq, amountOf]
  by_cases negative : n < 0
  · rw [minus, if_pos negative, List.singleton_append, groupSigned]
    simp only [whole, List.drop_length, List.append_nil]
  · have unsigned (r : Text) : Text.ofNat n.natAbs ≠ '-' :: r := fun same =>
      notMem_ofNat (c := '-') (by decide) n.natAbs (same ▸ List.mem_cons_self ..)
    rw [minus, if_neg negative, List.nil_append, groupSigned.eq_2 _ unsigned]
    simp only [whole, List.drop_length, List.append_nil]

theorem substitute_amountOf (n : Int) :
    Text.substitute ',' [] (amountOf n) = minus n ++ Text.ofNat n.natAbs := by
  have without (s : Text) : Text.substitute ',' [] s = s.filter (· ≠ ',') := by
    induction s with
    | nil => rfl
    | cons c r ih =>
      rw [Text.substitute, List.flatMap_cons, ← Text.substitute, ih, List.filter_cons]
      by_cases comma : c = ',' <;> simp [comma]
  have sign : (minus n).filter (· ≠ ',') = minus n := by
    rw [minus]
    split <;> rfl
  rw [without, amountOf, List.filter_append, sign, filter_group _ (notMem_ofNat (by decide) _)]

theorem ink_amountOf (n : Int) : ∀ c ∈ amountOf n, Text.isBlank c = false := by
  intro c mem
  by_cases comma : c = ','
  · rw [comma]
    rfl
  have mem' : c ∈ minus n ++ Text.ofNat n.natAbs := by
    rw [← substitute_amountOf]
    exact List.mem_flatMap.2 ⟨c, mem, by simp [comma]⟩
  rcases List.mem_append.1 mem' with sign | digit
  · rw [minus] at sign
    split at sign
    · obtain rfl := List.mem_singleton.1 sign
      rfl
    · cases sign
  · have ends := endsInInk_digit (Nat.isDigit_of_mem_toDigits (by decide) (by decide) digit)
    simpa [Text.endsInInk] using ends

theorem amountOf_ne_nil (n : Int) : amountOf n ≠ [] := by
  intro none
  have same := substitute_amountOf n
  rw [none] at same
  exact Nat.toDigits_ne_nil (List.append_eq_nil_iff.1 same.symm).2

end Decimal

theorem Context.amount?_of_isNumeral {sign digits : Text} {n : Int}
    (number : Decimal.IsNumeral sign digits n) (least : -Int.pow 2 127 ≤ n)
    (most : n < Int.pow 2 127) :
    Context.amount? (sign ++ digits) = some (Decimal.amountOf n) := by
  simp only [Context.amount?, number.integer?]
  rw [if_pos ⟨least, most⟩, Decimal.groupSigned_ofInt]

/-- The command that makes the last word an amount, with `form` written literally. -/
def Atom.currency (form : Text) : Text := '\x7b' :: (escape ('*' :: '(' :: (form ++ [')'])) ++ ['\x7d'])

theorem Command.ofText?_currency (form : Text) :
    ofText? ('*' :: '(' :: (form ++ [')'])) = some (.retroCurrency form) := by
  have ends := Text.beforeEnd?_eq_some_iff.2 (Eq.refl (form ++ [')']))
  simp [ofText?, fixed?, currency?, ends]

theorem Style.resolve_currency (style : Style) (last : Action) (output : Text) {t : Translation}
    {form : Text} (english : t.english = some (Atom.currency form)) :
    style.resolve last output t =
      [.resolved (Context.retroCurrency ⟨style, last, output⟩ form)] := by
  have last : ('*' :: '(' :: (form ++ [')'])).getLast? ≠ some '\\' := by
    rw [← List.cons_append, ← List.cons_append, List.getLast?_concat]
    decide
  have command : Atom.IsCommand (Atom.currency form) := Atom.isCommand_escape last
  have inside : (Atom.meta? (Atom.currency form)).map Atom.unescape =
      some ('*' :: '(' :: (form ++ [')'])) := by
    rw [Atom.currency, Atom.meta?_braced, Option.map_some, Atom.unescape_escape]
  obtain ⟨s, braced, plain⟩ := Option.map_eq_some_iff.1 inside
  simp only [resolve, english, Atom.trimmed_of_isCommand command, resolveAtoms_singleton,
    Context.resolveAtom, braced, plain, Context.resolveMeta, Command.ofText?_currency, Command.apply]

/-- Where the last word is a whole number of 128 bits, with commas anywhere, it becomes an amount in
the form: the canonical numeral of the number with commas between the threes. All else stays; and so
does the amount when the command comes again. -/
theorem currency_keeps_value (style : Style) (last : Action) {head word tail sign digits : Text}
    {n : Int} (lastWord : Text.IsLastWord head word tail)
    (written : Text.substitute ',' [] word = sign ++ digits)
    (number : Decimal.IsNumeral sign digits n) (least : -Int.pow 2 127 ≤ n)
    (most : n < Int.pow 2 127) :
    let output := head ++ word ++ tail
    let amount := Decimal.amountOf n
    (∃ sign' digits' grouped, amount = sign' ++ grouped ∧ Decimal.IsCanonical sign' digits' n ∧
      Decimal.InThrees digits' grouped ∧ Text.substitute ',' [] amount = sign' ++ digits') ∧
    (∀ form (t : Translation), t.english = some (Atom.currency form) →
      ∃ a, style.resolve last output t = [.resolved a] ∧
        a.edit output = head ++ Text.substitute 'c' amount form ++ tail) ∧
    ∀ t : Translation, t.english = some (Atom.currency ['c']) →
      ∃ a b, style.resolve last output t = [.resolved a] ∧
        style.resolve a (a.edit output) t = [.resolved b] ∧ b.edit (a.edit output) = a.edit output := by
  intro output amount
  have canonical := Decimal.isCanonical_ofInt n
  have first (form : Text) : (Context.retroCurrency ⟨style, last, output⟩ form).edit output =
      head ++ Text.substitute 'c' amount form ++ tail :=
    Context.edit_retroCurrency lastWord rfl
      (written ▸ Context.amount?_of_isNumeral number least most) form
  have whole : Text.substitute 'c' amount ['c'] = amount := List.append_nil amount
  refine ⟨⟨Decimal.minus n, Text.ofNat n.natAbs, Decimal.group (Text.ofNat n.natAbs), rfl, canonical,
    Decimal.inThrees_group canonical.ne, Decimal.substitute_amountOf n⟩, ?_, ?_⟩
  · intro form t english
    exact ⟨_, style.resolve_currency last output english, first form⟩
  · intro t english
    let a := Context.retroCurrency ⟨style, last, output⟩ ['c']
    have once : a.edit output = head ++ amount ++ tail := (first ['c']).trans (by rw [whole])
    have lastWord' : Text.IsLastWord head amount tail :=
      ⟨lastWord.apart, Decimal.amountOf_ne_nil n, Decimal.ink_amountOf n, lastWord.blank⟩
    have again : Context.amount? (Text.substitute ',' [] amount) = some amount := by
      rw [Decimal.substitute_amountOf]
      exact Context.amount?_of_isNumeral canonical.toIsNumeral least most
    refine ⟨a, Context.retroCurrency ⟨style, a, a.edit output⟩ ['c'],
      style.resolve_currency last output english, style.resolve_currency a _ english, ?_⟩
    rw [Context.edit_retroCurrency (c := ⟨style, a, a.edit output⟩) lastWord' once again, whole, once]

/-- A sign and a zero that no canonical numeral has, and a comma out of place. -/
theorem currency_keeps_value_price :
    let price : Translation := .ofEnglish "\x7b*($c)\x7d"
    Text.IsLastWord "It costs ".toList "+01,23456".toList " ".toList ∧
      Decimal.IsNumeral ['+'] "0123456".toList 123456 ∧
      ∀ (style : Style) (last : Action),
        ∃ a, style.resolve last "It costs +01,23456 ".toList price = [.resolved a] ∧
          a.edit "It costs +01,23456 ".toList = "It costs $123,456 ".toList := by
  intro price
  have ink : "+01,23456".toList.all (!Text.isBlank ·) = true := by decide
  have lastWord : Text.IsLastWord "It costs ".toList "+01,23456".toList " ".toList :=
    { apart := by rintro c ⟨⟩; rfl
      ne := by decide
      ink := fun c mem => by simpa using List.all_eq_true.1 ink c mem
      blank := List.all_eq_true.1 (by decide) }
  have number : Decimal.IsNumeral ['+'] "0123456".toList 123456 :=
    ⟨List.all_eq_true.1 (by decide), by decide, .inl (by decide)⟩
  refine ⟨lastWord, number, fun style last => ?_⟩
  obtain ⟨-, replaced, -⟩ :=
    currency_keeps_value style last lastWord rfl number (by decide) (by decide)
  have amount : Decimal.amountOf 123456 = "123,456".toList := by decide +kernel
  rw [amount] at replaced
  exact replaced "$c".toList price rfl

end Stenotype
