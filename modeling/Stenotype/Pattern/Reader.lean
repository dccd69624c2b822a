import Stenotype.Pattern.Regex
import Stenotype.Pattern.Named

/-!
# Reading regular expressions

The written form of expressions: literals and escapes, classes with set operations, groups with and
without names, alternatives, repetitions, conditions and inline flags. Look-around and references
back to a group are not part of the language, and neither is what nests too deep or stands for too
large a machine.
-/

set_option autoImplicit false

namespace Stenotype.Pattern

structure Flags where
  anyCase : Bool := false
  multiLine : Bool := false
  dotAll : Bool := false
  swapGreed : Bool := false
  unicode : Bool := true
  crlf : Bool := false
  verbose : Bool := false

namespace Flags

def set? (f : Flags) (on : Bool) (c : Char) : Option Flags :=
  match c with
  | 'i' => some { f with anyCase := on }
  | 'm' => some { f with multiLine := on }
  | 's' => some { f with dotAll := on }
  | 'U' => some { f with swapGreed := on }
  | 'u' => some { f with unicode := on }
  | 'R' => some { f with crlf := on }
  | 'x' => some { f with verbose := on }
  | _ => none

def digit (f : Flags) : CharSet := if f.unicode then .digit else .asciiDigit

def blank (f : Flags) : CharSet := if f.unicode then .blank else .asciiBlank

def wordChar (f : Flags) : CharSet := if f.unicode then .wordChar else .asciiWordChar

end Flags

/-- Drops blanks and comments up to the end of their lines, as they mean nothing in verbose mode. -/
def dropRemarks : Bool → Text → Text
  | _, [] => []
  | true, c :: r => dropRemarks (c ≠ '\n') r
  | false, c :: r =>
    if Text.isBlank c then dropRemarks false r
    else if c = '#' then dropRemarks true r
    else c :: r

def skip (f : Flags) (s : Text) : Text := if f.verbose then dropRemarks false s else s

/-- What one escape, or one plain character, stands for. -/
inductive Primitive
  | literal (c : Char)
  /-- A character given as a number of two digits, which may also stand for a byte. -/
  | byte (c : Char)
  | set (s : CharSet)
  | anchor (a : Anchor)

def isEscapable (c : Char) : Bool :=
  Text.isAscii c && !c.isAlphanum && c ≠ '<' && c ≠ '>'

def isScalar (n : Nat) : Bool := n < 0xd800 || (0xdfff < n && n ≤ 0x10ffff)

def ofCodePoint? (n : Nat) : Option Char := if isScalar n then some (Char.ofNat n) else none

def readHexBraced (f : Flags) : Nat → Text → Option Nat → Option (Char × Text)
  | 0, _, _ => none
  | n + 1, s, acc =>
    match skip f s with
    | [] => none
    | '\x7d' :: r => do
      let c ← ofCodePoint? (← acc)
      some (c, skip f r)
    | c :: r => do
      let d ← Text.hexValue? c
      readHexBraced f n r (some (16 * acc.getD 0 + d))

def readHexFixed (f : Flags) : Nat → Text → Nat → Option (Char × Text)
  | 0, s, acc => do
    let c ← ofCodePoint? acc
    some (c, s)
  | n + 1, s, acc =>
    match s with
    | [] => none
    | c :: r => do
      let d ← Text.hexValue? c
      readHexFixed f n (skip f r) (16 * acc + d)

def readHex (f : Flags) (digits : Nat) (s : Text) : Option (Primitive × Text) :=
  match skip f s with
  | [] => none
  | '\x7b' :: r => do
    let (c, r) ← readHexBraced f (r.length + 1) r none
    some (.literal c, r)
  | s => do
    let (c, r) ← readHexFixed f digits s 0
    some (if digits = 2 then .byte c else .literal c, r)

def readSetName (f : Flags) : Nat → Text → Text → Option (Text × Text)
  | 0, _, _ => none
  | n + 1, s, acc =>
    match skip f s with
    | [] => none
    | '\x7d' :: r => some (acc.reverse, r)
    | c :: r => readSetName f n r (c :: acc)

/-- `name` before and after the first `mark`. -/
def cutAt? (mark : Text) : Text → Option (Text × Text)
  | [] => none
  | c :: r =>
    match Text.afterStart? mark (c :: r) with
    | some rest => some ([], rest)
    | none => (cutAt? mark r).map fun (a, b) => (c :: a, b)

/-- The set that a name in braces stands for; `!=` asks for the complement. -/
def setOfName? (name : Text) : Option CharSet :=
  match cutAt? ['!', '='] name with
  | some (p, v) => (setWithValue? p v).map .compl
  | none =>
    match cutAt? [':'] name with
    | some (p, v) => setWithValue? p v
    | none =>
      match cutAt? ['='] name with
      | some (p, v) => setWithValue? p v
      | none => setNamed? name

def readNamedSet (f : Flags) (negated : Bool) (s : Text) : Option (Primitive × Text) :=
  if !f.unicode then none
  else match skip f s with
    | [] => none
    | '\x7b' :: r => do
      let (name, r) ← readSetName f (r.length + 1) r []
      let set ← setOfName? name
      some (.set (.negate negated (.foldWhen f.anyCase set)), r)
    | '\\' :: _ => none
    | c :: r => do
      let set ← setNamed? [c]
      some (.set (.negate negated (.foldWhen f.anyCase set)), skip f r)

/-- A set of characters, where only ASCII can be meant unless Unicode is on. -/
def guardAscii (f : Flags) (s : CharSet) : Option CharSet :=
  if f.unicode then some s
  else if s.hasHighByte then none
  else some (.inter s .ascii)

def isEdgeNameChar (c : Char) : Bool := c.isAlpha || c = '-'

/-- The name in braces after `\b`, if it is one: counts start otherwise. -/
def readEdgeName (f : Flags) : Nat → Text → Text → Text × Text
  | 0, s, acc => (acc.reverse, s)
  | n + 1, s, acc =>
    match s with
    | [] => (acc.reverse, [])
    | c :: r =>
      if isEdgeNameChar c then readEdgeName f n (skip f r) (c :: acc) else (acc.reverse, c :: r)

def readEdge (f : Flags) (s : Text) : Option (Primitive × Text) :=
  let w := f.wordChar
  match s with
  | '\x7b' :: r =>
    match skip f r with
    | [] => none
    | c :: t =>
      if isEdgeNameChar c then
        match readEdgeName f (t.length + 1) (c :: t) [] with
        | (name, '\x7d' :: rest) =>
          match String.ofList name with
          | "start" => some (.anchor (.wordStart w), rest)
          | "end" => some (.anchor (.wordEnd w), rest)
          | "start-half" => some (.anchor (.wordStartHalf w), rest)
          | "end-half" => some (.anchor (.wordEndHalf w), rest)
          | _ => none
        | _ => none
      else some (.anchor (.wordEdge w), s)
  | _ => some (.anchor (.wordEdge w), s)

def readEscape (f : Flags) : Text → Option (Primitive × Text)
  | [] => none
  | c :: r =>
    match c with
    | 'x' => readHex f 2 r
    | 'u' => readHex f 4 r
    | 'U' => readHex f 8 r
    | 'p' => readNamedSet f false r
    | 'P' => readNamedSet f true r
    | 'd' => (guardAscii f f.digit).map fun s => (.set s, r)
    | 'D' => (guardAscii f (.compl f.digit)).map fun s => (.set s, r)
    | 's' => (guardAscii f f.blank).map fun s => (.set s, r)
    | 'S' => (guardAscii f (.compl f.blank)).map fun s => (.set s, r)
    | 'w' => (guardAscii f f.wordChar).map fun s => (.set s, r)
    | 'W' => (guardAscii f (.compl f.wordChar)).map fun s => (.set s, r)
    | 'a' => some (.literal '\x07', r)
    | 'f' => some (.literal '\x0c', r)
    | 't' => some (.literal '\t', r)
    | 'n' => some (.literal '\n', r)
    | 'r' => some (.literal '\r', r)
    | 'v' => some (.literal '\x0b', r)
    | 'A' => some (.anchor .textStart, r)
    | 'z' => some (.anchor .textEnd, r)
    | 'b' => readEdge f r
    | 'B' => some (.anchor (.notWordEdge f.wordChar), r)
    | '<' => some (.anchor (.wordStart f.wordChar), r)
    | '>' => some (.anchor (.wordEnd f.wordChar), r)
    | c => if isEscapable c then some (.literal c, r) else none

def literalSet (f : Flags) (c : Char) : CharSet :=
  if !f.anyCase then .single c
  else if f.unicode then .anyCase (.single c)
  else if Text.isAscii c then .inter (.anyCase (.single c)) .ascii
  else .single c

def Primitive.regex? (f : Flags) : Primitive → Option Regex
  | literal c => some (.char (literalSet f c))
  | byte c => if f.unicode || Text.isAscii c then some (.char (literalSet f c)) else none
  | set s => some (.char s)
  | anchor a => some (.anchor a)

inductive SetOp
  | inter
  | diff
  | symmDiff

def SetOp.apply : SetOp → CharSet → CharSet → CharSet
  | inter => .inter
  | diff => .diff
  | symmDiff => .symmDiff

/-- How deep a whole nests when its parts nest so deep. A single part is the whole. -/
def levels (parts : List Nat) : Nat := parts.foldl max 0 + (if parts.length ≤ 1 then 0 else 1)

/-- Items inside brackets: what they mean together, and how deep each nests. -/
structure Items where
  set : CharSet := .none
  depths : List Nat := []

def Items.add (is : Items) (s : CharSet) (depth : Nat) : Items :=
  ⟨.union is.set s, depth :: is.depths⟩

/-- A set operation that waits for its right side, with the left side and how deep that nests. -/
abbrev PendingOp := Option (CharSet × Nat × SetOp)

def closeOp (f : Flags) (pending : PendingOp) (is : Items) : CharSet × Nat :=
  match pending with
  | none => (is.set, levels is.depths)
  | some (left, depth, op) =>
    (op.apply (.foldWhen f.anyCase left) (.foldWhen f.anyCase is.set),
      max depth (levels is.depths) + 1)

def openOp (f : Flags) (pending : PendingOp) (is : Items) (op : SetOp) : PendingOp :=
  let (left, depth) := closeOp f pending is
  some (left, depth, op)

/-- A literal inside brackets; without Unicode it has to be a byte. -/
def bracketLiteral? (f : Flags) : Primitive → Option Char
  | .literal c => if f.unicode || Text.isAscii c then some c else none
  | .byte c => some c
  | _ => none

def readBracketItem (f : Flags) : Text → Option (Primitive × Text)
  | [] => none
  | '\\' :: r => readEscape f r
  | c :: r => some (.literal c, r)

def readBracketRange (f : Flags) (s : Text) : Option (CharSet × Text) := do
  let (first, r) ← readBracketItem f s
  let r := skip f r
  let single : Option (CharSet × Text) := match first with
    | .set set => some (set, r)
    | first => (bracketLiteral? f first).map fun c => (.single c, r)
  match r with
  | [] => none
  | '-' :: t =>
    match skip f t with
    | [] => none
    | ']' :: _ => single
    | '-' :: _ => single
    | t => do
      let (last, r) ← readBracketItem f t
      let a ← bracketLiteral? f first
      let b ← bracketLiteral? f last
      if a ≤ b then some (.interval a b, r) else none
  | _ => single

def readAsciiSet? (f : Flags) (s : Text) : Option (CharSet × Text) := do
  let r ← Text.afterStart? [':'] s
  let (negated, r) := match r with
    | '^' :: t => (true, t)
    | r => (false, r)
  let name := r.takeWhile (· ≠ ':')
  let r ← Text.afterStart? [':', ']'] (r.drop name.length)
  let set ← CharSet.asciiNamed? (String.ofList name)
  let set ← guardAscii f (.negate negated (.foldWhen f.anyCase set))
  some (set, r)

def readHyphens (f : Flags) : Nat → Text → Items → Items × Text
  | 0, s, acc => (acc, s)
  | n + 1, s, acc =>
    match s with
    | '-' :: r => readHyphens f n (skip f r) (acc.add (.single '-') 0)
    | s => (acc, s)

def openBracket (f : Flags) (s : Text) : Bool × Items × Text :=
  let s := skip f s
  let (negated, s) := match s with
    | '^' :: r => (true, skip f r)
    | s => (false, s)
  match s with
  | '-' :: _ =>
    let (acc, s) := readHyphens f s.length s {}
    (negated, acc, s)
  | ']' :: r => (negated, ⟨.single ']', [0]⟩, skip f r)
  | s => (negated, {}, s)

def readBracket (f : Flags) :
    Nat → Bool → Items → PendingOp → Text → Option (CharSet × Nat × Text)
  | 0, _, _, _, _ => none
  | n + 1, negated, acc, pending, s =>
    match skip f s with
    | [] => none
    | ']' :: r => do
      let (set, depth) := closeOp f pending acc
      let set ← guardAscii f (.negate negated (.foldWhen f.anyCase set))
      some (set, depth + 1, r)
    | '&' :: '&' :: r => readBracket f n negated {} (openOp f pending acc .inter) r
    | '-' :: '-' :: r => readBracket f n negated {} (openOp f pending acc .diff) r
    | '~' :: '~' :: r => readBracket f n negated {} (openOp f pending acc .symmDiff) r
    | '[' :: r =>
      match readAsciiSet? f r with
      | some (set, r) => readBracket f n negated (acc.add set 0) pending r
      | none => do
        let (innerNegated, start, t) := openBracket f r
        let (set, depth, r) ← readBracket f n innerNegated start none t
        readBracket f n negated (acc.add set depth) pending r
    | s => do
      let (set, r) ← readBracketRange f s
      readBracket f n negated (acc.add set 0) pending r

def readClass (f : Flags) (s : Text) : Option (CharSet × Nat × Text) :=
  let (negated, start, t) := openBracket f s
  readBracket f (s.length + 1) negated start none t

/-- A decimal number below 2^32, with blanks around it; `none` inside if there are no digits. -/
def readCount (f : Flags) (s : Text) : Option (Option Nat × Text) :=
  let s := s.dropWhile Text.isBlank
  let rec digits : Nat → Text → Option Nat → Option Nat × Text
    | 0, s, acc => (acc, s)
    | n + 1, s, acc =>
      match s with
      | [] => (acc, [])
      | c :: r =>
        if c.isDigit then digits n (skip f r) (some (10 * acc.getD 0 + (c.toNat - '0'.toNat)))
        else (acc, c :: r)
  let (count, r) := digits s.length s none
  if count.getD 0 < Nat.pow 2 32 then some (count, skip f (r.dropWhile Text.isBlank)) else none

def readBounds (f : Flags) (s : Text) : Option (Nat × Option Nat × Text) := do
  let (least, r) ← readCount f (skip f s)
  let least ← least
  match r with
  | '\x7d' :: r => some (least, some least, r)
  | ',' :: r =>
    match skip f r with
    | '\x7d' :: r => some (least, none, r)
    | r => do
      let (most, r) ← readCount f r
      let most ← most
      match r with
      | '\x7d' :: r => if least ≤ most then some (least, some most, r) else none
      | _ => none
  | _ => none

def readLazy (s : Text) : Bool × Text :=
  match s with
  | '?' :: r => (true, r)
  | s => (false, s)

structure Progress where
  rest : Text
  flags : Flags
  groups : Nat
  names : List (Text × Nat)

inductive Opening
  /-- Flags for the rest of the enclosing group. -/
  | directive
  | plain
  | capture (n : Nat)

def isGroupNameChar (first : Bool) (c : Char) : Bool :=
  if first then c = '_' || Text.isAlphabetic c
  else c = '_' || c = '.' || c = '[' || c = ']' || Text.isAlphanumeric c

def readGroupName (s : Text) : Option (Text × Text) :=
  let name := s.takeWhile (· ≠ '>')
  match s.drop name.length, name with
  | '>' :: r, c :: cs =>
    if isGroupNameChar true c && cs.all (isGroupNameChar false) then some (name, r) else none
  | _, _ => none

/-- Flags up to the colon or parenthesis that ends them: each at most once, one minus, and not
last. -/
def readFlags (f : Flags) (on : Bool) (seen : Text) : Text → Option (Flags × Char × Text)
  | [] => none
  | c :: r =>
    if c = ':' || c = ')' then
      if seen.head? == some '-' || (c = ')' && seen.isEmpty) then none else some (f, c, r)
    else if seen.contains c then none
    else if c = '-' then readFlags f false (c :: seen) r
    else do readFlags (← f.set? on c) on (c :: seen) r

def openGroup (p : Progress) (s : Text) : Option (Opening × Progress) :=
  let s := skip p.flags s
  let capture (name : Option Text) (rest : Text) : Option (Opening × Progress) :=
    let n := p.groups + 1
    match name with
    | none => some (.capture n, { p with rest := rest, groups := n })
    | some name =>
      if (p.names.lookup name).isSome then none
      else some (.capture n, { p with rest := rest, groups := n, names := (name, n) :: p.names })
  match s with
  | '?' :: '=' :: _ => none
  | '?' :: '!' :: _ => none
  | '?' :: '<' :: '=' :: _ => none
  | '?' :: '<' :: '!' :: _ => none
  | '?' :: 'P' :: '<' :: r => do
    let (name, r) ← readGroupName r
    capture (some name) r
  | '?' :: '<' :: r => do
    let (name, r) ← readGroupName r
    capture (some name) r
  | '?' :: r => do
    let (f, last, r) ← readFlags p.flags true [] r
    some (if last = ':' then .plain else .directive, { p with rest := r, flags := f })
  | s => capture none s

def Opening.wrap : Opening → Regex → Regex
  | capture n, r => .group n r
  | _, r => r

/-- A piece of a sequence, and how deep it nests; flags leave a place that cannot be repeated. -/
structure Piece where
  regex? : Option Regex
  depth : Nat := 0

/-- The pieces of a sequence, the last first. -/
abbrev Pieces := List Piece

def Pieces.regex (ps : Pieces) : Regex := .sequence (ps.reverse.filterMap Piece.regex?)

def Pieces.depth (ps : Pieces) : Nat := levels (ps.map Piece.depth)

def Pieces.repeatLast? (ps : Pieces) (least : Nat) (most : Option Nat) (greedy : Bool) :
    Option Pieces :=
  match ps with
  | ⟨some r, depth⟩ :: ps => some (⟨some (.rep r least most greedy), depth + 1⟩ :: ps)
  | _ => none

abbrev Alternatives := List (Regex × Nat)

def Alternatives.regex (as : Alternatives) : Regex := .choice (as.reverse.map (·.1))

def Alternatives.depth (as : Alternatives) : Nat := levels (as.map (·.2))

def dot (f : Flags) : Option CharSet :=
  if !f.unicode then none
  else if f.dotAll then some .all
  else if f.crlf then some (.compl (.ranges [(0xa, 0xa), (0xd, 0xd)]))
  else some (.compl (.single '\n'))

def lineStart (f : Flags) : Anchor :=
  if !f.multiLine then .textStart else if f.crlf then .crlfLineStart else .lineStart

def lineEnd (f : Flags) : Anchor :=
  if !f.multiLine then .textEnd else if f.crlf then .crlfLineEnd else .lineEnd

/-- The alternatives up to the end of the group or of the text, and how deep they nest. -/
def readAlternatives : Nat → Progress → Pieces → Alternatives → Option (Regex × Nat × Progress)
  | 0, _, _, _ => none
  | n + 1, p, pieces, done =>
    let f := p.flags
    let closed : Alternatives := (pieces.regex, pieces.depth) :: done
    let finish (rest : Text) : Option (Regex × Nat × Progress) :=
      some (closed.regex, closed.depth, { p with rest := rest })
    let next (piece : Piece) (rest : Text) : Option (Regex × Nat × Progress) :=
      readAlternatives n { p with rest := rest } (piece :: pieces) done
    let repeated (least : Nat) (most : Option Nat) (r : Text) :
        Option (Regex × Nat × Progress) := do
      let (isLazy, r) := readLazy r
      let pieces ← pieces.repeatLast? least most (isLazy == f.swapGreed)
      readAlternatives n { p with rest := r } pieces done
    match skip f p.rest with
    | [] => finish []
    | ')' :: r => finish (')' :: r)
    | '|' :: r => readAlternatives n { p with rest := r } [] closed
    | '(' :: r => do
      let (opening, q) ← openGroup p r
      match opening with
      | .directive => readAlternatives n q (⟨none, 0⟩ :: pieces) done
      | opening => do
        let (body, depth, q) ← readAlternatives n q [] []
        match q.rest with
        | ')' :: r =>
          readAlternatives n { q with rest := r, flags := f }
            (⟨some (opening.wrap body), depth + 1⟩ :: pieces) done
        | _ => none
    | '[' :: r => do
      let (set, depth, r) ← readClass f r
      next ⟨some (.char set), depth⟩ r
    | '?' :: r => repeated 0 (some 1) r
    | '*' :: r => repeated 0 none r
    | '+' :: r => repeated 1 none r
    | '\x7b' :: r => do
      let (least, most, r) ← readBounds f r
      repeated least most (skip f r)
    | '.' :: r => do
      let set ← dot f
      next ⟨some (.char set), 0⟩ r
    | '^' :: r => next ⟨some (.anchor (lineStart f)), 0⟩ r
    | '$' :: r => next ⟨some (.anchor (lineEnd f)), 0⟩ r
    | '\\' :: r => do
      let (item, r) ← readEscape f r
      next ⟨some (← item.regex? f), 0⟩ r
    | c :: r => next ⟨some (.char (literalSet f c)), 0⟩ r

/-- How deep groups, classes, repetitions, sequences and alternatives may stand in one another. -/
def nestLimit : Nat := 250

/-- The largest machine that an expression may stand for: as many states of 32 bytes as ten
mebibytes hold. `Regex.size` only estimates the states. -/
def sizeLimit : Nat := 327680

structure Program where
  regex : Regex
  names : List (Text × Nat)
  deriving DecidableEq

def Program.read? (anyCase : Bool) (source : Text) : Option Program := do
  let start : Progress := ⟨source, { anyCase := anyCase }, 0, []⟩
  let (r, depth, p) ← readAlternatives (source.length + 1) start [] []
  match p.rest with
  | [] => if depth ≤ nestLimit ∧ r.size ≤ sizeLimit then some ⟨r, p.names⟩ else none
  | _ => none

end Stenotype.Pattern
