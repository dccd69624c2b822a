import Stenotype.Command.Simple
import Stenotype.Command.Attach
import Stenotype.Command.Retro
import Stenotype.Command.Conditional

/-!
# Carrying out commands

Every command makes one action of its context, except a conditional, which makes two and leaves
the choice open.
-/

set_option autoImplicit false

namespace Stenotype

def Command.apply (c : Context) : Command → Except CommandError Slot
  | stop mark => .ok (.resolved (c.stop mark))
  | comma mark => .ok (.resolved (c.comma mark))
  | capitalizeNext => .ok (.resolved c.capitalizeNext)
  | lowerNext => .ok (.resolved c.lowerNext)
  | upperNext => .ok (.resolved c.upperNext)
  | retroCase case => .ok (.resolved (c.retroCase case))
  | retroCurrency form => .ok (.resolved (c.retroCurrency form))
  | retroDeleteSpace => .ok (.resolved c.deleteSpace)
  | retroInsertSpace => .ok (.resolved c.insertSpace)
  | mode name => (c.mode name).map .resolved
  | engineCommand name => .ok (.resolved (c.engineCommand name))
  | keyCombo combo => .ok (.resolved (c.keyCombo combo))
  | ifNextMatches args => (c.ifNextMatches args).map .pending
  | glue text => .ok (.resolved (c.glue text))
  | carryCapitalize text => .ok (.resolved (c.carryCapitalize text))
  | attach text => .ok (.resolved (c.attach text))

/-- What is wrong with a command; a pattern that cannot be read has no wording of its own. -/
def CommandError.message? : CommandError → Option Text
  | unknownMode name => some (Text.quoted name ++ " is not a valid mode".toList)
  | malformedConditional args =>
    some ("conditional ".toList ++ Text.quoted args ++ " needs a pattern and two alternatives".toList)
  | invalidPattern _ => none

end Stenotype
