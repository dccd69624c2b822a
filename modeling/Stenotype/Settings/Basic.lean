import Stenotype.Text.Basic

/-!
# Settings

What a user may choose: where separators go, how output starts, how far one can undo, and which
suffix rules apply.
-/

set_option autoImplicit false

namespace Stenotype

inductive SpacePlacement
  | before
  | after
  deriving DecidableEq, Repr

inductive OrthographySystem
  | english
  | spanish
  | none
  deriving DecidableEq, Repr

structure RuleSettings where
  pattern : Text
  replacement : Text
  deriving DecidableEq, Repr

structure FormatterSettings where
  startCapitalized : Bool := false
  startAttached : Bool := false
  spacePlacement : SpacePlacement := .before
  undoLevels : Nat := 100
  deriving DecidableEq, Repr

structure OrthographySettings where
  system : OrthographySystem := .english
  extraRules : List RuleSettings := []
  deriving DecidableEq, Repr

structure Settings where
  formatter : FormatterSettings := {}
  orthography : OrthographySettings := {}
  deriving DecidableEq, Repr

end Stenotype
