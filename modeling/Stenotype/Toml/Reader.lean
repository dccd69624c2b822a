import Stenotype.Toml.Scalar

/-!
# Reading documents

A document is a row of lines: blank lines and comments, keys with values, and headers. Values may be
lists, which may run over several lines, and tables in braces, which may not. Nesting has a limit.
-/

set_option autoImplicit false

namespace Stenotype.Toml

/-- How deep values may be nested, and how long keys may be. -/
def depthLimit : Nat := 80

def isBareKeyChar (c : Char) : Bool := c.isAlphanum || c = '-' || c = '_'

def readSimpleKey (s : Text) : Option (Text × Text) :=
  match s with
  | '"' :: r => readBasic r
  | '\'' :: r => readLiteral r
  | s =>
    let key := s.takeWhile isBareKeyChar
    if key.isEmpty then none else some (key, s.drop key.length)

def readKeys : Nat → Text → Option (List Text × Text)
  | 0, _ => none
  | n + 1, s => do
    let (key, r) ← readSimpleKey (dropSpaces s)
    match dropSpaces r with
    | '.' :: r => do
      let (keys, r) ← readKeys n r
      some (key :: keys, r)
    | r => some ([key], r)

def readKey (s : Text) : Option (List Text × Text × Text) := do
  let (keys, r) ← readKeys (depthLimit - 1) s
  let last ← keys.getLast?
  some (keys.dropLast, last, r)

def dropFiller (inside : Bool) : Text → Text
  | [] => []
  | '\r' :: '\n' :: r => dropFiller false r
  | c :: r =>
    if c = '\n' then dropFiller false r
    else if inside then if isVisible c then dropFiller true r else c :: r
    else if isSpace c then dropFiller false r
    else if c = '#' then dropFiller true r
    else c :: r

def word? (word : String) (v : Toml) (s : Text) : Option (Toml × Text) :=
  (Text.afterStart? word.toList s).map fun r => (v, r)

mutual

def readValue : Nat → Nat → Text → Option (Toml × Text)
  | 0, _, _ => none
  | n + 1, depth, s =>
    match s with
    | [] => none
    | c :: r =>
      if c = '"' || c = '\'' then (readString s).map fun (t, r) => (string t, r)
      else if c = '[' then
        if depth < depthLimit then
          (readItems n (depth + 1) r).map fun (vs, r) => (array vs, r)
        else none
      else if c = '\x7b' then
        if depth < depthLimit then do
          let (ps, r) ← readPairs n (depth + 1) r
          let t ← ofPairs ps
          some (t, r)
        else none
      else if c = '+' || c = '-' || c.isDigit || c = 'i' || c = 'n' then readNumber s
      else if c = 't' then word? "true" (boolean true) s
      else if c = 'f' then word? "false" (boolean false) s
      else none

def readItems : Nat → Nat → Text → Option (List Toml × Text)
  | 0, _, _ => none
  | n + 1, depth, s =>
    match dropFiller false s with
    | ']' :: r => some ([], r)
    | s => do
      let (v, r) ← readValue n depth s
      match dropFiller false r with
      | ']' :: r => some ([v], r)
      | ',' :: r => do
        let (vs, r) ← readItems n depth r
        some (v :: vs, r)
      | _ => none

def readPairs : Nat → Nat → Text → Option (List Pair × Text)
  | 0, _, _ => none
  | n + 1, depth, s =>
    match dropSpaces s with
    | '\x7d' :: r => some ([], r)
    | s => readPair n depth s

/-- A pair of a table in braces and those after it; no comma may follow the last. -/
def readPair : Nat → Nat → Text → Option (List Pair × Text)
  | 0, _, _ => none
  | n + 1, depth, s => do
    let (path, key, r) ← readKey s
    let r ← expect '=' r
    let (v, r) ← readValue n depth (dropSpaces r)
    match dropSpaces r with
    | '\x7d' :: r => some ([⟨path, key, v⟩], r)
    | ',' :: r => do
      let (ps, r) ← readPair n depth r
      some (⟨path, key, v⟩ :: ps, r)
    | _ => none

end

def endLine (s : Text) : Option Text :=
  let r := match dropSpaces s with
    | '#' :: r => r.dropWhile isVisible
    | r => r
  match r with
  | [] => some []
  | r => afterNewline? r

def readLine (s : Text) : Option (Pair × Text) := do
  let (path, key, r) ← readKey s
  let r ← expect '=' r
  let (v, r) ← readValue (2 * r.length + 2) 0 (dropSpaces r)
  let r ← endLine r
  some (⟨path, key, v⟩, r)

def readHeader (s : Text) : Option (Header × Text) :=
  match s with
  | '[' :: r => do
    let (path, key, r) ← readKey r
    let r ← expect ']' r
    let r ← expect ']' r
    some (.tables path key, ← endLine r)
  | r => do
    let (path, key, r) ← readKey r
    let r ← expect ']' r
    some (.table path key, ← endLine r)

def readSections : Nat → Text → Option (List Pair × List Section)
  | 0, _ => none
  | n + 1, s =>
    match dropSpaces s with
    | [] => some ([], [])
    | '[' :: r => do
      let (header, r) ← readHeader r
      let (pairs, sections) ← readSections n r
      some ([], ⟨header, pairs⟩ :: sections)
    | c :: r =>
      if c = '#' || c = '\n' || c = '\r' then do
        let r ← endLine (c :: r)
        readSections n r
      else do
        let (pair, r) ← readLine (c :: r)
        let (pairs, sections) ← readSections n r
        some (pair :: pairs, sections)

/-- Reads a document; a byte order mark may come first. -/
def read? (s : Text) : Option Toml := do
  let s := match s with
    | '\ufeff' :: r => r
    | s => s
  let (pairs, sections) ← readSections (s.length + 1) s
  ofSections pairs sections

end Stenotype.Toml
