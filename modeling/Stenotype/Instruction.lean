import Stenotype.KeyCombo

/-!
# Instructions

What the formatter asks an output to do. Replayed on a text, backspaces and strings edit its end;
printed, every instruction is a line, and a key combination is spelt out as presses and releases.
-/

set_option autoImplicit false

namespace Stenotype

inductive Instruction
  | backspaces (count : Nat)
  | string (text : Text)
  | keyCombo (combo : Text)
  | engineCommand (name : Text)
  deriving DecidableEq, Repr

namespace Instruction

def replay (screen : Text) : Instruction → Text
  | backspaces n => Text.dropLast n screen
  | string s => screen ++ s
  | keyCombo _ => screen
  | engineCommand _ => screen

def replayAll (screen : Text) (is : List Instruction) : Text := is.foldl replay screen

/-- The line that stands for an instruction; a key combination has none if it is no combination. -/
def printed : Instruction → Except (Text × KeyComboError) Text
  | backspaces n => .ok ("backspace ".toList ++ Text.ofNat n ++ ['\n'])
  | string s => .ok ("string ".toList ++ Text.quoted s ++ ['\n'])
  | keyCombo combo =>
    match KeyCombo.parse combo with
    | .error e => .error (combo, e)
    | .ok events =>
      .ok ("combo ".toList ++ combo ++ " => ".toList ++
        Text.joinWith [' '] (events.map KeyEvent.printed) ++ ['\n'])
  | engineCommand name => .ok ("command ".toList ++ name ++ ['\n'])

end Instruction
end Stenotype
