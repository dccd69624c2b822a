import Stenotype.Pattern.CharSet

/-!
# Regular expressions

An expression runs on a cursor, a place in a text, and hands every place where it can end to a
continuation, the preferred one first; the first place that the continuation accepts is the match.
Alternatives are preferred from left to right, repetitions prefer more rounds or, if lazy, fewer.
Once a repetition has made its rounds it goes on only with rounds that use up text.
-/

set_option autoImplicit false

namespace Stenotype.Pattern

/-- A place in a text: what is before it, the nearest first, what is after it, and the texts that
the groups have taken so far, the latest first. -/
structure Cursor where
  before : Text
  after : Text
  groups : List (Nat × Text)

namespace Cursor

def span (c d : Cursor) : Text := c.after.take (c.after.length - d.after.length)

def record (n : Nat) (c d : Cursor) : Cursor := { d with groups := (n, c.span d) :: d.groups }

def group? (c : Cursor) (n : Nat) : Option Text := c.groups.lookup n

def wordBefore (word : CharSet) (c : Cursor) : Bool := (c.before.head?.map word.mem).getD false

def wordAfter (word : CharSet) (c : Cursor) : Bool := (c.after.head?.map word.mem).getD false

end Cursor

inductive Anchor
  | textStart
  | textEnd
  | lineStart
  | lineEnd
  /-- As `lineStart`, with carriage returns ending lines too. -/
  | crlfLineStart
  | crlfLineEnd
  | wordEdge (word : CharSet)
  | notWordEdge (word : CharSet)
  | wordStart (word : CharSet)
  | wordEnd (word : CharSet)
  | wordStartHalf (word : CharSet)
  | wordEndHalf (word : CharSet)
  deriving DecidableEq

namespace Anchor

def holds (c : Cursor) : Anchor → Bool
  | textStart => c.before.isEmpty
  | textEnd => c.after.isEmpty
  | lineStart => c.before.isEmpty || c.before.head? == some '\n'
  | lineEnd => c.after.isEmpty || c.after.head? == some '\n'
  | crlfLineStart =>
    c.before.isEmpty || c.before.head? == some '\n' ||
      (c.before.head? == some '\r' && c.after.head? != some '\n')
  | crlfLineEnd =>
    c.after.isEmpty || c.after.head? == some '\r' ||
      (c.after.head? == some '\n' && c.before.head? != some '\r')
  | wordEdge w => c.wordBefore w != c.wordAfter w
  | notWordEdge w => c.wordBefore w == c.wordAfter w
  | wordStart w => !c.wordBefore w && c.wordAfter w
  | wordEnd w => c.wordBefore w && !c.wordAfter w
  | wordStartHalf w => !c.wordBefore w
  | wordEndHalf w => !c.wordAfter w

end Anchor

inductive Regex
  | empty
  | char (s : CharSet)
  | anchor (a : Anchor)
  | seq (r s : Regex)
  | alt (r s : Regex)
  | group (n : Nat) (r : Regex)
  | rep (r : Regex) (least : Nat) (most : Option Nat) (greedy : Bool)
  deriving DecidableEq

namespace Regex

/-- The first of two attempts that succeeds; a lazy repetition tries to stop first. -/
def attempt {α : Type} (greedy : Bool) (more stop : Unit → Option α) : Option α :=
  if greedy then (more ()).orElse stop else (stop ()).orElse more

abbrev Round (α : Type) := Cursor → (Cursor → Option α) → Option α

def exactly {α : Type} (round : Round α) : Nat → Round α
  | 0, c, k => k c
  | n + 1, c, k => round c fun d => exactly round n d k

def upTo {α : Type} (round : Round α) (greedy : Bool) : Nat → Round α
  | 0, c, k => k c
  | n + 1, c, k => attempt greedy (fun _ => round c fun d => upTo round greedy n d k) (fun _ => k c)

/-- Further rounds, each of which uses up text; at most `n`. -/
def further {α : Type} (round : Round α) (greedy : Bool) : Nat → Round α
  | 0, c, k => k c
  | n + 1, c, k =>
    attempt greedy
      (fun _ => round c fun d =>
        if d.after.length < c.after.length then further round greedy n d k else none)
      (fun _ => k c)

def oneOrMore {α : Type} (round : Round α) (greedy : Bool) : Round α := fun c k =>
  round c fun d =>
    if d.after.length < c.after.length then further round greedy d.after.length d k else k d

def rounds {α : Type} (round : Round α) (least : Nat) (most : Option Nat) (greedy : Bool) :
    Round α := fun c k =>
  match most, least with
  | some m, n => exactly round n c fun d => upTo round greedy (m - n) d k
  | none, 0 => attempt greedy (fun _ => oneOrMore round greedy c k) (fun _ => k c)
  | none, n + 1 => exactly round n c fun d => oneOrMore round greedy d k

def run {α : Type} : Regex → Round α
  | empty => fun c k => k c
  | char s => fun c k =>
    match c.after with
    | [] => none
    | x :: r => if s.mem x then k { c with before := x :: c.before, after := r } else none
  | anchor a => fun c k => if a.holds c then k c else none
  | seq r s => fun c k => r.run c fun d => s.run d k
  | alt r s => fun c k => (r.run c k).orElse fun _ => s.run c k
  | group n r => fun c k => r.run c fun d => k (c.record n d)
  | rep r least most greedy => fun c k => rounds r.run least most greedy c k

/-- Where a match that starts at `c` ends; group 0 is the whole match. -/
def matchAt (r : Regex) (c : Cursor) : Option Cursor := (group 0 r).run c some

def searchFrom (r : Regex) (before : Text) : Text → Option Cursor
  | [] => r.matchAt ⟨before, [], []⟩
  | x :: s =>
    match r.matchAt ⟨before, x :: s, []⟩ with
    | some d => some d
    | none => searchFrom r (x :: before) s

def search (r : Regex) (s : Text) : Option Cursor := r.searchFrom [] s

def sequence : List Regex → Regex
  | [] => empty
  | [r] => r
  | r :: rs => seq r (sequence rs)

def choice : List Regex → Regex
  | [] => empty
  | [r] => r
  | r :: rs => alt r (choice rs)

/-- How many steps of a matching machine the expression stands for. -/
def size : Regex → Nat
  | empty => 1
  | char s => s.size
  | anchor _ => 1
  | seq r s => r.size + s.size
  | alt r s => r.size + s.size + 1
  | group _ r => r.size + 2
  | rep r least most _ =>
    match most with
    | some m => m * (r.size + 1)
    | none => (least + 1) * (r.size + 1)

end Regex
end Stenotype.Pattern
