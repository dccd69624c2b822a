import Stenotype.Text.Basic

/-!
# Replacement templates

Text with references to groups: `$name` takes the longest run of letters, digits and underscores,
a name in braces is taken as it stands, and `$$` is a dollar sign. A name that reads as a number
is the group's number.
-/

set_option autoImplicit false

namespace Stenotype.Pattern

inductive TemplatePart
  | literal (c : Char)
  | group (name : Text)
  deriving DecidableEq

abbrev Template := List TemplatePart

namespace Template

def isNameChar (c : Char) : Bool := c.isAlphanum || c = '_'

def readFrom : Nat → Text → Template
  | 0, _ => []
  | _, [] => []
  | n + 1, '$' :: '$' :: r => .literal '$' :: readFrom n r
  | n + 1, '$' :: '\x7b' :: r =>
    let name := r.takeWhile (· ≠ '\x7d')
    match r.drop name.length with
    | _ :: rest => .group name :: readFrom n rest
    | [] => .literal '$' :: readFrom n ('\x7b' :: r)
  | n + 1, '$' :: r =>
    let name := r.takeWhile isNameChar
    if name.isEmpty then .literal '$' :: readFrom n r
    else .group name :: readFrom n (r.drop name.length)
  | n + 1, c :: r => .literal c :: readFrom n r

def read (s : Text) : Template := readFrom s.length s

/-- A group number: decimal digits, maybe after a plus sign, below 2^64. -/
def number? (name : Text) : Option Nat :=
  let digits := match name with
    | '+' :: r => r
    | r => r
  if digits.isEmpty || !digits.all Char.isDigit then none
  else
    let n := digits.foldl (fun n c => 10 * n + (c.toNat - '0'.toNat)) 0
    if n < Nat.pow 2 64 then some n else none

def expand (group : Text → Text) (t : Template) : Text :=
  t.flatMap fun
    | .literal c => [c]
    | .group name => group name

theorem expand_append (group : Text → Text) (t t' : Template) :
    (t ++ t').expand group = t.expand group ++ t'.expand group := List.flatMap_append

theorem expand_literals (group : Text → Text) (s : Text) : expand group (s.map .literal) = s := by
  rw [expand, List.flatMap_map]
  exact List.flatMap_singleton' s

theorem expand_group_cons (group : Text → Text) (name : Text) (t : Template) :
    expand group (.group name :: t) = group name ++ t.expand group := rfl

end Template
end Stenotype.Pattern
