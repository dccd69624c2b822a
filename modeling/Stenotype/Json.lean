import Stenotype.Text.Hex

/-!
# JSON values

A strict reader: no comments, no commas at the end, no controls in strings. Of a number only the
form matters. A string whose escapes name half a surrogate pair is well formed, but is no text.
-/

set_option autoImplicit false

namespace Stenotype

inductive Json
  | null
  | boolean (b : Bool)
  | number
  | string (s : Option Text)
  | array (items : List Json)
  | object (members : List (Option Text × Json))

namespace Json

def isSpace (c : Char) : Bool := c = ' ' || c = '\n' || c = '\t' || c = '\r'

def dropSpaces (s : Text) : Text := s.dropWhile isSpace

def escape? : Char → Option Char
  | '"' => some '"'
  | '\\' => some '\\'
  | '/' => some '/'
  | 'b' => some '\x08'
  | 'f' => some '\x0c'
  | 'n' => some '\n'
  | 'r' => some '\r'
  | 't' => some '\t'
  | _ => none

def consTo (n : Nat) (r : Option (List Nat × Text)) : Option (List Nat × Text) :=
  r.map fun (ns, rest) => (n :: ns, rest)

/-- The rest of a string: code points, and surrogates where escapes name them. -/
def readCodes : Text → Option (List Nat × Text)
  | [] => none
  | '"' :: r => some ([], r)
  | '\\' :: 'u' :: a :: b :: c :: d :: r =>
    (Text.hexNumber? [a, b, c, d]).bind fun n => consTo n (readCodes r)
  | '\\' :: e :: r => (escape? e).bind fun c => consTo c.toNat (readCodes r)
  | c :: r => if 0x20 ≤ c.toNat && c ≠ '\\' then consTo c.toNat (readCodes r) else none

def isHighSurrogate (n : Nat) : Bool := 0xd800 ≤ n && n < 0xdc00

def isLowSurrogate (n : Nat) : Bool := 0xdc00 ≤ n && n < 0xe000

/-- The text of code points and surrogates, if the surrogates come in pairs. -/
def textOfCodes? : List Nat → Option Text
  | [] => some []
  | [n] => if n.isValidChar then some [Char.ofNat n] else none
  | n :: m :: r =>
    if isHighSurrogate n then
      if isLowSurrogate m then
        (textOfCodes? r).map (Char.ofNat (0x10000 + 0x400 * (n - 0xd800) + (m - 0xdc00)) :: ·)
      else none
    else if n.isValidChar then (textOfCodes? (m :: r)).map (Char.ofNat n :: ·)
    else none

def readString (s : Text) : Option (Option Text × Text) :=
  (readCodes s).map fun (ns, r) => (textOfCodes? ns, r)

def dropDigits1 : Text → Option Text
  | c :: r => if c.isDigit then some (r.dropWhile Char.isDigit) else none
  | [] => none

/-- The whole part of a number: no zero in front of other digits. -/
def dropWhole : Text → Option Text
  | '0' :: r => if r.head?.any Char.isDigit then none else some r
  | s => dropDigits1 s

def dropFraction : Text → Option Text
  | '.' :: r => dropDigits1 r
  | r => some r

def dropExponent : Text → Option Text
  | c :: r =>
    if c = 'e' || c = 'E' then
      match r with
      | '+' :: r => dropDigits1 r
      | '-' :: r => dropDigits1 r
      | r => dropDigits1 r
    else some (c :: r)
  | [] => some []

def afterNumber? (s : Text) : Option Text :=
  let s := match s with
    | '-' :: r => r
    | s => s
  ((dropWhole s).bind dropFraction).bind dropExponent

def word? (word : String) (v : Json) (s : Text) : Option (Json × Text) :=
  (Text.afterStart? word.toList s).map fun r => (v, r)

mutual

def readValue : Nat → Text → Option (Json × Text)
  | 0, _ => none
  | n + 1, s =>
    match dropSpaces s with
    | '"' :: r => (readString r).map fun (t, r) => (string t, r)
    | '[' :: r =>
      match dropSpaces r with
      | ']' :: r => some (array [], r)
      | r => (readItems n r).map fun (vs, r) => (array vs, r)
    | '\x7b' :: r =>
      match dropSpaces r with
      | '\x7d' :: r => some (object [], r)
      | r => (readMembers n r).map fun (ms, r) => (object ms, r)
    | 'n' :: r => word? "null" null ('n' :: r)
    | 't' :: r => word? "true" (boolean true) ('t' :: r)
    | 'f' :: r => word? "false" (boolean false) ('f' :: r)
    | s => (afterNumber? s).map fun r => (number, r)

def readItems : Nat → Text → Option (List Json × Text)
  | 0, _ => none
  | n + 1, s => do
    let (v, r) ← readValue n s
    match dropSpaces r with
    | ']' :: r => some ([v], r)
    | ',' :: r => (readItems n r).map fun (vs, r) => (v :: vs, r)
    | _ => none

def readMembers : Nat → Text → Option (List (Option Text × Json) × Text)
  | 0, _ => none
  | n + 1, s => do
    let (key, r) ← match dropSpaces s with
      | '"' :: r => readString r
      | _ => none
    let r ← match dropSpaces r with
      | ':' :: r => some r
      | _ => none
    let (v, r) ← readValue n r
    match dropSpaces r with
    | '\x7d' :: r => some ([(key, v)], r)
    | ',' :: r => (readMembers n r).map fun (ms, r) => ((key, v) :: ms, r)
    | _ => none

end

/-- Reads a text that holds one value. Every step of the reader takes a character or is the only one
before the next that does, so that twice the length is enough. -/
def read? (s : Text) : Option Json := do
  let (v, r) ← readValue (2 * s.length + 2) s
  if (dropSpaces r).isEmpty then some v else none

/-- The value of a member; there must not be two. -/
def member? (name : String) (ms : List (Text × Json)) : Option (Option Json) :=
  match ms.filter fun m => m.1 = name.toList with
  | [] => some none
  | [m] => some (some m.2)
  | _ => none

def text? : Json → Option Text
  | string s => s
  | _ => none

def optionalText? : Json → Option (Option Text)
  | null => some none
  | string s => s.map some
  | _ => none

def texts? : Json → Option (List Text)
  | array vs => vs.mapM text?
  | _ => none

end Json
end Stenotype
