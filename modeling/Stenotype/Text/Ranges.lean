import Stenotype.Text.Hex

/-!
# Tables of code points

Character data is written as rows of hexadecimal numbers: in a text, rows are separated by a space,
the numbers of a row by a hyphen. `Ranges` are the code points that have a property; a `Span` maps a
run of code points, all or every second one, to another run.
-/

set_option autoImplicit false

namespace Stenotype.Text

def rowsFrom : Text → List Nat → Nat → List (List Nat)
  | [], row, n => [(n :: row).reverse]
  | c :: r, row, n =>
    if c = ' ' then (n :: row).reverse :: rowsFrom r [] 0
    else if c = '-' then rowsFrom r (n :: row) 0
    else rowsFrom r row (16 * n + (hexValue? c).getD 0)

def readRows (lines : List String) : List (List Nat) :=
  lines.flatMap fun s => rowsFrom s.toList [] 0

/-- A table is evaluated after its lines have been spelled out, as evaluation takes strings apart only
slowly. -/
theorem readRows_cons (line : Text) (lines : List String) :
    readRows (String.ofList line :: lines) = rowsFrom line [] 0 ++ readRows lines := by
  rw [readRows, List.flatMap_cons, String.toList_ofList, readRows]

/-- Inclusive ranges of code points. -/
abbrev Ranges := List (Nat × Nat)

namespace Ranges

def ofRow? : List Nat → Option (Nat × Nat)
  | [a] => some (a, a)
  | [a, b] => some (a, b)
  | _ => none

def read (lines : List String) : Ranges := (readRows lines).filterMap ofRow?

def contains (r : Ranges) (c : Char) : Bool := r.any fun (a, b) => a ≤ c.toNat && c.toNat ≤ b

theorem contains_iff (r : Ranges) (c : Char) :
    r.contains c = true ↔ ∃ p ∈ r, p.1 ≤ c.toNat ∧ c.toNat ≤ p.2 := by
  simp [contains]

end Ranges

/-- Maps `first`, `first + step`, … up to `last` to the same steps from `image` on. -/
structure Span where
  first : Nat
  last : Nat
  step : Nat
  image : Nat

namespace Span

def ofRow? : List Nat → Option Span
  | [a, b] => some ⟨a, a, 1, b⟩
  | [a, b, s, i] => some ⟨a, b, s, i⟩
  | _ => none

def ofRows (rows : List (List Nat)) : List Span := rows.filterMap ofRow?

def read (lines : List String) : List Span := ofRows (readRows lines)

def covers (p : Span) (n : Nat) : Bool :=
  p.first ≤ n && n ≤ p.last && (n - p.first) % p.step == 0

def map? (p : Span) (n : Nat) : Option Nat :=
  if p.covers n then some (p.image + (n - p.first)) else none

def source? (p : Span) (n : Nat) : Option Nat :=
  if p.image ≤ n && p.covers (p.first + (n - p.image)) then some (p.first + (n - p.image)) else none

end Span

def lookup? (spans : List Span) (n : Nat) : Option Nat := spans.findSome? (·.map? n)

end Stenotype.Text
