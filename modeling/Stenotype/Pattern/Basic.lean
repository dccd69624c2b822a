import Stenotype.Pattern.Reader
import Stenotype.Pattern.Template

/-!
# Patterns

A pattern is a source text together with the program that a reader has compiled it to. Which sources
can be read, and what their programs match, is up to the reader.
-/

set_option autoImplicit false

namespace Stenotype

structure Pattern where
  source : Text
  program : Pattern.Program
  deriving DecidableEq

namespace Pattern

/-- What compiles sources, for any letter case or for the one they are written in. -/
structure Reader where
  program? : Bool → Text → Option Program

def Reader.read? (r : Reader) (anyCase : Bool) (source : Text) : Option Pattern :=
  (r.program? anyCase source).map fun program => ⟨source, program⟩

/-- The reader of this library. It does not know the age, the script extensions or the breaks of
characters, and only estimates how large a machine gets; a reader that does better takes other
sources. -/
def Reader.standard : Reader := ⟨Program.read?⟩

def ofSource? : Bool → Text → Option Pattern := Reader.standard.read?

def isMatch (p : Pattern) (s : Text) : Bool := (p.program.regex.search s).isSome

/-- The text that a match took for the group a template names. -/
def groupText (p : Pattern) (found : Cursor) (name : Text) : Text :=
  let n := match Template.number? name with
    | some n => some n
    | none => p.program.names.lookup name
  ((n.bind found.group?).getD [])

def expandMatch? (p : Pattern) (t : Template) (s : Text) : Option Text :=
  (p.program.regex.search s).map fun found => t.expand (p.groupText found)

end Pattern
end Stenotype
