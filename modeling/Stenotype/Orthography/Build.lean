import Stenotype.Orthography.English
import Stenotype.Orthography.Spanish
import Stenotype.Formatter

/-!
# From settings to a formatter

The user's rules go ahead of the rules of the system; the first that the reader refuses is an error.
-/

set_option autoImplicit false

namespace Stenotype

def OrthographySystem.rules : OrthographySystem → Orthography
  | .english => .english
  | .spanish => .spanish
  | .none => .empty

def OrthographySettings.build (s : OrthographySettings) (reader : Pattern.Reader := .standard) :
    Except InvalidPattern Orthography := do
  let extra ← s.extraRules.mapM (Orthography.ruleOf reader)
  return ⟨extra ++ s.system.rules.rules, reader⟩

def Formatter.ofSettings (s : Settings) (reader : Pattern.Reader := .standard) :
    Except InvalidPattern Formatter := do
  return Formatter.new s.formatter (← s.orthography.build reader)

end Stenotype
