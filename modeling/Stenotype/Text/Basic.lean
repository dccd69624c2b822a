/-!
# Text

Text is a list of characters: counts, offsets and cuts are all in characters. This module has the
operations that every other part shares: common beginnings, cutting a marker off either end, and
putting text in place of one character.
-/

set_option autoImplicit false

namespace Stenotype

abbrev Text := List Char

namespace Text

def commonLength {α : Type} [DecidableEq α] : List α → List α → Nat
  | a :: as, b :: bs => if a = b then commonLength as bs + 1 else 0
  | _, _ => 0

theorem commonLength_le_left {α : Type} [DecidableEq α] (a b : List α) :
    commonLength a b ≤ a.length := by
  fun_induction commonLength a b <;> simp_all

theorem commonLength_le_right {α : Type} [DecidableEq α] (a b : List α) :
    commonLength a b ≤ b.length := by
  fun_induction commonLength a b <;> simp_all

theorem take_commonLength {α : Type} [DecidableEq α] (a b : List α) :
    a.take (commonLength a b) = b.take (commonLength a b) := by
  fun_induction commonLength a b <;> simp_all

theorem commonLength_self {α : Type} [DecidableEq α] (a : List α) :
    commonLength a a = a.length := by
  induction a with
  | nil => rfl
  | cons c r ih => simp [commonLength, ih]

theorem le_commonLength {α : Type} [DecidableEq α] {a b : List α} {n : Nat} (ha : n ≤ a.length)
    (hb : n ≤ b.length) (h : a.take n = b.take n) : n ≤ commonLength a b := by
  induction n generalizing a b with
  | zero => exact Nat.zero_le _
  | succ n ih =>
    cases a with
    | nil => simp at ha
    | cons x a =>
      cases b with
      | nil => simp at hb
      | cons y b =>
        simp only [List.take_succ_cons, List.cons.injEq] at h
        obtain ⟨rfl, h⟩ := h
        have tail := ih (by simpa using ha) (by simpa using hb) h
        simp only [commonLength, ↓reduceIte]
        omega

/-- The last `n` characters, all of them if there are fewer. -/
def takeLast (n : Nat) (s : Text) : Text := s.drop (s.length - n)

theorem takeLast_suffix (n : Nat) (s : Text) : takeLast n s <:+ s :=
  List.drop_suffix _ _

def dropLast (n : Nat) (s : Text) : Text := s.take (s.length - n)

theorem takeLast_append_right {n : Nat} (s : Text) {t : Text} (le : n ≤ t.length) :
    takeLast n (s ++ t) = takeLast n t := by
  rw [takeLast, takeLast, List.drop_append, List.length_append,
    List.drop_eq_nil_of_le (by omega), List.nil_append]
  congr 1
  omega

theorem dropLast_append_right {n : Nat} (s : Text) {t : Text} (le : n ≤ t.length) :
    dropLast n (s ++ t) = s ++ dropLast n t := by
  rw [dropLast, dropLast, List.take_append, List.length_append,
    List.take_of_length_le (by omega)]
  congr 2
  omega

theorem takeLast_add_append (n : Nat) (s t : Text) :
    takeLast (n + t.length) (s ++ t) = takeLast n s ++ t := by
  rw [takeLast, takeLast, List.length_append, Nat.add_sub_add_right, List.drop_append_of_le_length]
  exact Nat.sub_le _ _

theorem dropLast_add_append (n : Nat) (s t : Text) :
    dropLast (n + t.length) (s ++ t) = dropLast n s := by
  rw [dropLast, dropLast, List.length_append, Nat.add_sub_add_right, List.take_append_of_le_length]
  exact Nat.sub_le _ _

theorem dropLast_zero (s : Text) : dropLast 0 s = s := by
  rw [dropLast, Nat.sub_zero, List.take_length]

theorem takeLast_length_sub {n : Nat} {s : Text} (le : n ≤ s.length) :
    takeLast (s.length - n) s = s.drop n := by
  rw [takeLast, Nat.sub_sub_self le]

theorem dropLast_length_sub {n : Nat} {s : Text} (le : n ≤ s.length) :
    dropLast (s.length - n) s = s.take n := by
  rw [dropLast, Nat.sub_sub_self le]

theorem length_takeLast {n : Nat} {s : Text} (le : n ≤ s.length) : (takeLast n s).length = n := by
  rw [takeLast, List.length_drop]
  omega

theorem dropLast_append_length (s t : Text) : dropLast t.length (s ++ t) = s := by
  rw [← Nat.zero_add t.length, dropLast_add_append, dropLast_zero]

theorem takeLast_append_length (s t : Text) : takeLast t.length (s ++ t) = t := by
  rw [takeLast, List.length_append, Nat.add_sub_cancel, List.drop_left]

theorem dropLast_append_takeLast (n : Nat) (s : Text) : dropLast n s ++ takeLast n s = s :=
  List.take_append_drop _ s

def afterStart? : Text → Text → Option Text
  | [], s => some s
  | m :: mark, c :: s => if m = c then afterStart? mark s else none
  | _ :: _, [] => none

theorem afterStart?_eq_some_iff {mark s r : Text} :
    afterStart? mark s = some r ↔ s = mark ++ r := by
  fun_induction afterStart? mark s <;> simp_all
  intro h
  simp_all

def beforeEnd? (mark s : Text) : Option Text :=
  (afterStart? mark.reverse s.reverse).map List.reverse

theorem beforeEnd?_eq_some_iff {mark s r : Text} :
    beforeEnd? mark s = some r ↔ s = r ++ mark := by
  simp only [beforeEnd?, Option.map_eq_some_iff, afterStart?_eq_some_iff]
  constructor
  · rintro ⟨t, h, rfl⟩
    simpa using congrArg List.reverse h
  · rintro rfl
    exact ⟨r.reverse, by simp, by simp⟩

def endsWith (mark s : Text) : Bool := mark.isSuffixOf s

def substitute (c : Char) (new s : Text) : Text :=
  s.flatMap fun d => if d = c then new else [d]

theorem substitute_append (c : Char) (new s t : Text) :
    substitute c new (s ++ t) = substitute c new s ++ substitute c new t := by
  simp [substitute]

def splitOn {α : Type} [DecidableEq α] (sep : α) : List α → List (List α)
  | [] => [[]]
  | c :: r =>
    if c = sep then [] :: splitOn sep r
    else match splitOn sep r with
      | [] => [[c]]
      | w :: ws => (c :: w) :: ws

def joinWith (sep : Text) : List Text → Text
  | [] => []
  | [w] => w
  | w :: ws => w ++ sep ++ joinWith sep ws

end Text
end Stenotype
