import Stenotype.Command.Basic

/-!
# Conditionals

A conditional has a pattern and two alternatives, separated by slashes. A backslash makes a slash or
a backslash an ordinary character; the last part may hold slashes of its own.
-/

set_option autoImplicit false

namespace Stenotype

def consPart (c : Char) : List Text → List Text
  | [] => [[c]]
  | p :: ps => (c :: p) :: ps

/-- The parts of the arguments, of which `more` may follow this one. -/
def splitParts : Nat → Text → List Text
  | _, [] => [[]]
  | more, '\\' :: d :: r =>
    if d = '/' ∨ d = '\\' then consPart d (splitParts more r)
    else consPart '\\' (splitParts more (d :: r))
  | more, c :: r =>
    if c = '/' then
      match more with
      | 0 => consPart c (splitParts 0 r)
      | n + 1 => [] :: splitParts n r
    else consPart c (splitParts more r)

def splitArguments (args : Text) : List Text := splitParts 2 args

def anchoredSource (pattern : Text) : Text := ['^', '(', '?', ':'] ++ pattern ++ [')']

namespace Context

def alternative (c : Context) (s : Text) : Action :=
  if s.isEmpty then c.copyLast else c.renderWord c.newAction s

def ifNextMatches (c : Context) (args : Text) : Except CommandError LookAhead :=
  match splitArguments args with
  | [pattern, matched, unmatched] =>
    match c.orthography.reader.read? false (anchoredSource pattern) with
    | some p => .ok ⟨p, c.alternative matched, c.alternative unmatched⟩
    | none => .error (.invalidPattern pattern)
  | _ => .error (.malformedConditional args)

end Context
end Stenotype
