import Stenotype.Text.Kinds

/-!
# Words

Words are the longest runs without a blank. A text is its words with the blanks around them.
-/

set_option autoImplicit false

namespace Stenotype.Text

def words : Text → List Text
  | [] => []
  | c :: r =>
    if isBlank c then words r
    else match r with
      | [] => [[c]]
      | d :: _ =>
        if isBlank d then [c] :: words r
        else match words r with
          | [] => [[c]]
          | w :: ws => (c :: w) :: ws

def rightmostWord (s : Text) : Text := (words s).getLastD []

def trimStart (s : Text) : Text := s.dropWhile isBlank

def trimEnd (s : Text) : Text := (s.reverse.dropWhile isBlank).reverse

def trim (s : Text) : Text := trimEnd (trimStart s)

def trailingBlanks (s : Text) : Text := (s.reverse.takeWhile isBlank).reverse

theorem trimEnd_append_trailingBlanks (s : Text) : trimEnd s ++ trailingBlanks s = s := by
  rw [trimEnd, trailingBlanks, ← List.reverse_append, List.takeWhile_append_dropWhile,
    List.reverse_reverse]

theorem trimStart_of_ink {c : Char} {s : Text} (h : isBlank c = false) :
    trimStart (c :: s) = c :: s := by
  simp [trimStart, h]

theorem trimEnd_of_ink {c : Char} {s : Text} (h : isBlank c = false) :
    trimEnd (s ++ [c]) = s ++ [c] := by
  simp [trimEnd, h]

theorem trimEnd_prefix (s : Text) : trimEnd s <+: s :=
  ⟨_, trimEnd_append_trailingBlanks s⟩

def isAllBlank (s : Text) : Bool := s.all isBlank

theorem words_eq_nil_iff (s : Text) : words s = [] ↔ isAllBlank s = true := by
  fun_induction words s <;> simp_all [isAllBlank]

theorem mem_words {s w : Text} (h : w ∈ words s) : w ≠ [] ∧ ∀ c ∈ w, isBlank c = false := by
  fun_induction words s generalizing w with
  | case1 => simp at h
  | case2 c r blank ih => exact ih h
  | case3 c ink => simp_all
  | case4 c ink d t blank ih =>
    rcases List.mem_cons.1 h with rfl | h
    · simp_all
    · exact ih h
  | case5 c ink d t ink' none ih => simp_all
  | case6 c ink d t ink' v vs eq ih =>
    simp only [eq] at h ih
    rcases List.mem_cons.1 h with rfl | h
    · have first := (ih (List.mem_cons_self ..)).2
      simp_all
    · exact ih (List.mem_cons_of_mem _ h)

end Stenotype.Text
