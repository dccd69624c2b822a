import Stenotype.Context

/-!
# Commands

The text in the braces of an atom names a command. Text that names none is typed as it stands.
-/

set_option autoImplicit false

namespace Stenotype

inductive Command
  | stop (mark : Text)
  | comma (mark : Text)
  | capitalizeNext
  | lowerNext
  | upperNext
  | retroCase (case : LetterCase)
  /-- The last word as an amount, which stands for every `c` of the form. -/
  | retroCurrency (form : Text)
  | retroDeleteSpace
  | retroInsertSpace
  | mode (name : Text)
  | engineCommand (name : Text)
  | keyCombo (combo : Text)
  | ifNextMatches (args : Text)
  | glue (text : Text)
  | carryCapitalize (text : Text)
  | attach (text : Text)
  deriving DecidableEq, Repr

namespace Command

def fixed? : Text → Option Command
  | ['.'] => some (.stop ['.'])
  | ['!'] => some (.stop ['!'])
  | ['?'] => some (.stop ['?'])
  | [','] => some (.comma [','])
  | [':'] => some (.comma [':'])
  | [';'] => some (.comma [';'])
  | ['-', '|'] => some .capitalizeNext
  | ['>'] => some .lowerNext
  | ['<'] => some .upperNext
  | ['*', '-', '|'] => some (.retroCase .capFirstWord)
  | ['*', '>'] => some (.retroCase .lowerFirstChar)
  | ['*', '<'] => some (.retroCase .upper)
  | ['*', '!'] => some .retroDeleteSpace
  | ['*', '?'] => some .retroInsertSpace
  | _ => none

def currency? (s : Text) : Option Command :=
  match s with
  | '*' :: '(' :: r => (Text.beforeEnd? [')'] r).map .retroCurrency
  | _ => none

def mode? (s : Text) : Option Command :=
  (Text.afterStartAnyCase? ['M', 'O', 'D', 'E', ':'] s).map .mode

def engine? (s : Text) : Option Command :=
  (Text.afterStartAnyCase? ['P', 'L', 'O', 'V', 'E', 'R', ':'] s).map .engineCommand

def combo? : Text → Option Command
  | '#' :: r => some (.keyCombo r)
  | _ => none

def conditional? (s : Text) : Option Command :=
  match Text.afterStart? ":if_next_matches:".toList s, s with
  | some r, _ => some (.ifNextMatches r)
  | none, '=' :: r => some (.ifNextMatches r)
  | none, _ => none

def glue? : Text → Option Command
  | '&' :: r => some (.glue r)
  | _ => none

def carry? (s : Text) : Option Command :=
  match s with
  | '^' :: '~' :: '|' :: _ => some (.carryCapitalize s)
  | '~' :: '|' :: _ => some (.carryCapitalize s)
  | _ => none

def attach? (s : Text) : Option Command :=
  if s.head? = some '^' || s.getLast? = some '^' then some (.attach s) else none

/-- The command that a text names; of several readings the first in this order. -/
def ofText? (s : Text) : Option Command :=
  fixed? s <|> currency? s <|> mode? s <|> engine? s <|> combo? s <|> conditional? s <|> glue? s <|>
    carry? s <|> attach? s

end Command

inductive CommandError
  | unknownMode (name : Text)
  | malformedConditional (args : Text)
  | invalidPattern (pattern : Text)
  deriving DecidableEq, Repr

end Stenotype
