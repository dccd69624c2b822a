import Stenotype.Settings.Basic
import Stenotype.Toml.Reader
import Stenotype.Toml.Written
import Stenotype.Text.Utf8

/-!
# The settings file

Settings are kept as a document. Whatever a file leaves out has its default, and keys that nobody
knows are passed over. A group of settings may also be a list of its values in order.
-/

set_option autoImplicit false

namespace Stenotype

namespace Settings

/-- A setting that has a fixed set of values, by its name or as the only key of a table with
nothing in it. -/
def choice? {α : Type} (names : List (String × α)) (v : Toml) : Option α :=
  let named (name : Text) : Option α := names.lookup (String.ofList name)
  match v with
  | .string s => named s
  | v =>
    match v.entries? with
    | some [(name, inner)] =>
      let isEmpty := (inner.entries?.map List.isEmpty).getD ((inner.items?.map List.isEmpty).getD false)
      if isEmpty then named name else none
    | _ => none

def boolean? : Toml → Option Bool
  | .boolean b => some b
  | _ => none

def natural? : Toml → Option Nat
  | .integer (.ofNat n) => some n
  | _ => none

def text? : Toml → Option Text
  | .string s => some s
  | _ => none

def given {α : Type} (read : Toml → Option α) (dflt : α) : Option Toml → Option α
  | none => some dflt
  | some v => read v

/-- The settings of a group by name: from a table by their keys, from a list by their places. A
date stands for a group with no settings. -/
def group? (names : List String) (v : Toml) : Option (String → Option Toml) :=
  match v.entries?, v.items?, v with
  | some es, _, _ => some fun name => es.lookup name.toList
  | none, some vs, _ => some fun name => (names.zip vs).lookup name
  | none, none, .datetime => some fun _ => none
  | none, none, _ => none

def placementNames : List (String × SpacePlacement) :=
  [("Before Output", .before), ("After Output", .after)]

def systemNames : List (String × OrthographySystem) :=
  [("English", .english), ("Spanish", .spanish), ("None", .none)]

def readFormatter (v : Toml) : Option FormatterSettings := do
  let get ← group? ["start_capitalized", "start_attached", "space_placement", "undo_levels"] v
  let dflt : FormatterSettings := {}
  return {
    startCapitalized := ← given boolean? dflt.startCapitalized (get "start_capitalized")
    startAttached := ← given boolean? dflt.startAttached (get "start_attached")
    spacePlacement := ← given (choice? placementNames) dflt.spacePlacement (get "space_placement")
    undoLevels := ← given natural? dflt.undoLevels (get "undo_levels") }

def readRule (v : Toml) : Option RuleSettings := do
  let get ← group? ["pattern", "replacement"] v
  return ⟨← text? (← get "pattern"), ← text? (← get "replacement")⟩

def readRules (v : Toml) : Option (List RuleSettings) := do
  (← v.items?).mapM readRule

def readOrthography (v : Toml) : Option OrthographySettings := do
  let get ← group? ["system", "extra_rules"] v
  return {
    system := ← given (choice? systemNames) .english (get "system")
    extraRules := ← given readRules [] (get "extra_rules") }

def ofToml? (v : Toml) : Option Settings := do
  let get ← group? ["formatter", "orthography"] v
  return {
    formatter := ← given readFormatter {} (get "formatter")
    orthography := ← given readOrthography {} (get "orthography") }

def nameOf {α : Type} [DecidableEq α] (names : List (String × α)) (a : α) : Text :=
  ((names.find? fun row => row.2 = a).map fun row => row.1.toList).getD []

def line (key : String) (value : Text) : Text := key.toList ++ " = ".toList ++ value ++ ['\n']

def ofBool (b : Bool) : Text := if b then "true".toList else "false".toList

def writeRule (r : RuleSettings) : Text :=
  "\n[[orthography.extra_rules]]\n".toList ++ line "pattern" (Toml.writeString r.pattern) ++
    line "replacement" (Toml.writeString r.replacement)

def written (s : Settings) : Text :=
  "[formatter]\n".toList ++
  line "start_capitalized" (ofBool s.formatter.startCapitalized) ++
  line "start_attached" (ofBool s.formatter.startAttached) ++
  line "space_placement" (Toml.writeString (nameOf placementNames s.formatter.spacePlacement)) ++
  line "undo_levels" (Text.ofNat s.formatter.undoLevels) ++
  "\n[orthography]\n".toList ++
  line "system" (Toml.writeString (nameOf systemNames s.orthography.system)) ++
  (if s.orthography.extraRules.isEmpty then line "extra_rules" "[]".toList
   else s.orthography.extraRules.flatMap writeRule)

end Settings

inductive SettingsError
  | reading (path : Text)
  | parsing (path : Text)
  | creating (directory : Text)
  | writing (path : Text)
  deriving DecidableEq, Repr

def SettingsError.message : SettingsError → Text
  | reading path => "reading ".toList ++ path
  | parsing path => "parsing ".toList ++ path
  | creating directory => "creating ".toList ++ directory
  | writing path => "writing ".toList ++ path

inductive Obstacle
  | fileAbove
  | directoryInPlace
  deriving DecidableEq, Repr

namespace Settings

/-- The settings that a file holds; those of a file that is not there are the defaults. -/
def load (path : Text) (content : Option (List UInt8)) : Except SettingsError Settings :=
  match content with
  | none => .ok {}
  | some bytes =>
    match Text.ofUtf8? bytes with
    | none => .error (.reading path)
    | some text =>
      match (Toml.read? text).bind ofToml? with
      | none => .error (.parsing path)
      | some s => .ok s

def save (s : Settings) (directory path : Text) (obstacle : Option Obstacle) :
    Except SettingsError Text :=
  match obstacle with
  | some .fileAbove => .error (.creating directory)
  | some .directoryInPlace => .error (.writing path)
  | none => .ok s.written

end Settings
end Stenotype
