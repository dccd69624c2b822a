import Stenotype.Text.Basic

/-!
# Documents of keys and values

A document is a table. Tables are defined by a header, or come into being on the way to another
key: then a later header may still define them, or further dotted keys may add to them, according
to which of the two they came from. Tables written inside a value are closed.
-/

set_option autoImplicit false

namespace Stenotype

/-- How a table came into being. -/
inductive Toml.Origin
  | defined
  /-- On the way to another header. -/
  | opened
  /-- On the way to a dotted key. -/
  | dotted
  deriving DecidableEq, Repr

inductive Toml
  | string (s : Text)
  | integer (n : Int)
  | float
  | boolean (b : Bool)
  | datetime
  | array (items : List Toml)
  /-- A table inside a value. -/
  | closed (entries : List (Text × Toml))
  | table (origin : Toml.Origin) (entries : List (Text × Toml))
  | tables (items : List Toml)

namespace Toml

abbrev Entries := List (Text × Toml)

def put (key : Text) (v : Toml) : Entries → Entries
  | [] => [(key, v)]
  | (k, w) :: es => if k = key then (k, v) :: es else (k, w) :: put key v es

/-- Changes the table that `path` leads to; tables missing on the way are made. A dotted path does
not lead into tables that have been defined. -/
def update (dotted : Bool) (change : Origin → Entries → Option Toml) :
    List Text → Toml → Option Toml
  | [], table origin es => change origin es
  | key :: path, table origin es =>
    match es.lookup key with
    | none =>
      (update dotted change path (table (if dotted then .dotted else .opened) [])).map fun v =>
        table origin (put key v es)
    | some (table inner fs) =>
      if dotted && inner = .defined then none
      else (update dotted change path (table inner fs)).map fun v => table origin (put key v es)
    | some (tables items) =>
      match items.getLast? with
      | none => none
      | some last =>
        (update dotted change path last).map fun v =>
          table origin (put key (tables (items.dropLast ++ [v])) es)
    | some _ => none
  | _, _ => none

def insert (t : Toml) (path : List Text) (key : Text) (v : Toml) : Option Toml :=
  update true (fun origin es =>
    if (origin == .dotted) == path.isEmpty then none
    else if (es.lookup key).isSome then none
    else some (table origin (es ++ [(key, v)]))) path t

structure Pair where
  path : List Text
  key : Text
  value : Toml

def insertAll (t : Toml) (ps : List Pair) : Option Toml :=
  ps.foldlM (fun t p => t.insert p.path p.key p.value) t

def ofPairs (ps : List Pair) : Option Toml :=
  match insertAll (table .defined []) ps with
  | some (table _ es) => some (closed es)
  | _ => none

inductive Header
  | table (path : List Text) (key : Text)
  | tables (path : List Text) (key : Text)

structure Section where
  header : Header
  pairs : List Pair

def addSection (t : Toml) (s : Section) : Option Toml :=
  match s.header with
  | .table path key =>
    update false (fun origin es =>
      match es.lookup key with
      | none =>
        (insertAll (table .defined []) s.pairs).map fun v => table origin (put key v es)
      | some (table .opened fs) =>
        (insertAll (table .defined fs) s.pairs).map fun v => table origin (put key v es)
      | some _ => none) path t
  | .tables path key =>
    update false (fun origin es =>
      match es.lookup key with
      | none =>
        (insertAll (table .defined []) s.pairs).map fun v => table origin (put key (tables [v]) es)
      | some (tables items) =>
        (insertAll (table .defined []) s.pairs).map fun v =>
          table origin (put key (tables (items ++ [v])) es)
      | some _ => none) path t

def ofSections (pairs : List Pair) (sections : List Section) : Option Toml :=
  (insertAll (table .defined []) pairs).bind fun t => sections.foldlM addSection t

def entries? : Toml → Option Entries
  | table _ es => some es
  | closed es => some es
  | _ => none

def items? : Toml → Option (List Toml)
  | array vs => some vs
  | tables vs => some vs
  | _ => none

end Toml
end Stenotype
