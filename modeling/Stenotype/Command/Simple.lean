import Stenotype.Command.Basic

/-!
# Marks, case and modes

Marks attach to the output before them. One-shot case waits for the next word. Modes stay until
they are changed.
-/

set_option autoImplicit false

namespace Stenotype

namespace Context

def stop (c : Context) (mark : Text) : Action :=
  c.place { c.newAction with prevAttach := true, capitalize := true } mark

def comma (c : Context) (mark : Text) : Action :=
  c.place { c.newAction with prevAttach := true } mark

def capitalizeNext (c : Context) : Action :=
  { c.copyLast with capitalize := true, lower := false, upper := false }

def lowerNext (c : Context) : Action :=
  { c.copyLast with capitalize := false, lower := true, upper := false }

def upperNext (c : Context) : Action :=
  { c.copyLast with capitalize := false, lower := false, upper := true }

def keyCombo (c : Context) (combo : Text) : Action := { c.copyLast with combo := some combo }

def engineCommand (c : Context) (name : Text) : Action := { c.copyLast with command := some name }

def glue (c : Context) (s : Text) : Action :=
  c.renderWord { c.newAction with glue := true, prevAttach := c.last.glue } s

end Context

def Action.setMode? (a : Action) (name : Text) : Option Action :=
  match Text.afterStartAnyCase? ['S', 'E', 'T', '_', 'S', 'P', 'A', 'C', 'E', ':'] name with
  | some space => some { a with spaceChar := space }
  | none =>
    match String.ofList (Text.asciiUpper name) with
    | "CAPS" => some { a with case := some .upper }
    | "LOWER" => some { a with case := some .lower }
    | "TITLE" => some { a with case := some .title }
    | "SNAKE" => some { a with spaceChar := ['_'] }
    | "CAMEL" =>
      some { a with
        case := some .title, spaceChar := [], capitalize := false, upper := false, lower := true }
    | "RESET" => some { a with case := none, spaceChar := [' '] }
    | "RESET_CASE" => some { a with case := none }
    | "RESET_SPACE" => some { a with spaceChar := [' '] }
    | _ => none

def Context.mode (c : Context) (name : Text) : Except CommandError Action :=
  match c.copyLast.setMode? name with
  | some a => .ok a
  | none => .error (.unknownMode name)

end Stenotype
