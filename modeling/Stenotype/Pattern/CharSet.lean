import Stenotype.Text.Folding
import Stenotype.Text.Kinds

/-!
# Character sets

The set that one place of a pattern accepts, built from ranges of code points by the set
operations. `anyCase s` adds to `s` all case forms of its characters.
-/

set_option autoImplicit false

namespace Stenotype.Pattern

open Text (Ranges)

inductive CharSet
  | ranges (r : Ranges)
  | compl (s : CharSet)
  | union (s t : CharSet)
  | inter (s t : CharSet)
  | anyCase (s : CharSet)
  deriving DecidableEq

namespace CharSet

def mem : CharSet → Char → Bool
  | ranges r, c => r.contains c
  | compl s, c => !s.mem c
  | union s t, c => s.mem c || t.mem c
  | inter s t, c => s.mem c && t.mem c
  | anyCase s, c => (Text.variants c).any s.mem

@[simp] theorem mem_compl (s : CharSet) (c : Char) : (compl s).mem c = !s.mem c := rfl

@[simp] theorem mem_union (s t : CharSet) (c : Char) :
    (union s t).mem c = (s.mem c || t.mem c) := rfl

@[simp] theorem mem_inter (s t : CharSet) (c : Char) :
    (inter s t).mem c = (s.mem c && t.mem c) := rfl

def none : CharSet := ranges []

def all : CharSet := ranges [(0, 0x10ffff)]

def ascii : CharSet := ranges [(0, 0x7f)]

def single (c : Char) : CharSet := ranges [(c.toNat, c.toNat)]

def interval (a b : Char) : CharSet := ranges [(a.toNat, b.toNat)]

theorem mem_single (a c : Char) : (single a).mem c = decide (c = a) := by
  simp only [single, mem, Ranges.contains, List.any_cons, List.any_nil, Bool.or_false]
  rw [Bool.eq_iff_iff]
  simp only [Bool.and_eq_true, decide_eq_true_eq]
  constructor
  · rintro ⟨h, h'⟩
    exact Char.toNat_inj.1 (by omega)
  · rintro rfl
    exact ⟨Nat.le_refl _, Nat.le_refl _⟩

def diff (s t : CharSet) : CharSet := inter s (compl t)

def symmDiff (s t : CharSet) : CharSet := union (diff s t) (diff t s)

def negate (negated : Bool) (s : CharSet) : CharSet := if negated then compl s else s

def foldWhen (fold : Bool) (s : CharSet) : CharSet := if fold then anyCase s else s

def size : CharSet → Nat
  | ranges r => r.length
  | compl s => s.size + 1
  | union s t => s.size + t.size
  | inter s t => s.size + t.size
  | anyCase s => 2 * s.size

def hasHighByte (s : CharSet) : Bool :=
  (List.range 0x80).any fun i => s.mem (Char.ofNat (0x80 + i))

def category (cs : List Text.Category) : CharSet :=
  ranges ((Text.Category.table.filter fun row => row.1 ∈ cs).flatMap (·.2))

def digit : CharSet := ranges Text.Category.decimalNumberRanges

def blank : CharSet :=
  ranges [(0x9, 0xd), (0x20, 0x20), (0x85, 0x85), (0xa0, 0xa0), (0x1680, 0x1680),
    (0x2000, 0x200a), (0x2028, 0x2029), (0x202f, 0x202f), (0x205f, 0x205f), (0x3000, 0x3000)]

/-- Letters, marks, digits, connectors and joiners. -/
def wordChar : CharSet :=
  ranges (Text.alphabeticRanges ++ [(0x200c, 0x200d)] ++ Text.Category.nonspacingMarkRanges ++
    Text.Category.spacingMarkRanges ++ Text.Category.enclosingMarkRanges ++
    Text.Category.decimalNumberRanges ++ Text.Category.connectorPunctuationRanges)

def asciiDigit : CharSet := ranges [(0x30, 0x39)]

def asciiBlank : CharSet := ranges [(0x9, 0xd), (0x20, 0x20)]

def asciiWordChar : CharSet := ranges [(0x30, 0x39), (0x41, 0x5a), (0x5f, 0x5f), (0x61, 0x7a)]

def asciiNamed? (name : String) : Option CharSet :=
  match name with
  | "alnum" => some (ranges [(0x30, 0x39), (0x41, 0x5a), (0x61, 0x7a)])
  | "alpha" => some (ranges [(0x41, 0x5a), (0x61, 0x7a)])
  | "ascii" => some ascii
  | "blank" => some (ranges [(0x9, 0x9), (0x20, 0x20)])
  | "cntrl" => some (ranges [(0, 0x1f), (0x7f, 0x7f)])
  | "digit" => some asciiDigit
  | "graph" => some (ranges [(0x21, 0x7e)])
  | "lower" => some (ranges [(0x61, 0x7a)])
  | "print" => some (ranges [(0x20, 0x7e)])
  | "punct" => some (ranges [(0x21, 0x2f), (0x3a, 0x40), (0x5b, 0x60), (0x7b, 0x7e)])
  | "space" => some asciiBlank
  | "upper" => some (ranges [(0x41, 0x5a)])
  | "word" => some asciiWordChar
  | "xdigit" => some (ranges [(0x30, 0x39), (0x41, 0x46), (0x61, 0x66)])
  | _ => Option.none

end CharSet
end Stenotype.Pattern
