import Stenotype.Pattern.CharSet
import Stenotype.Pattern.Property

/-!
# Character sets by name

Names of categories, scripts and properties are compared without case, spaces, hyphens and
underscores, and without `is` in front.
-/

set_option autoImplicit false

namespace Stenotype.Pattern

open Text (Category)

def plainName (name : Text) : Text :=
  let isMarked := (name.take 2).map Char.toLower == ['i', 's']
  let body := if isMarked then name.drop 2 else name
  let letters := (body.filter fun c => c ≠ ' ' && c ≠ '_' && c ≠ '-' && c.toNat < 0x80).map Char.toLower
  if isMarked && letters == ['c'] then ['i', 's', 'c'] else letters

def categories : List (List String × List Category) := [
  (["lu", "uppercaseletter"], [.uppercaseLetter]),
  (["ll", "lowercaseletter"], [.lowercaseLetter]),
  (["lt", "titlecaseletter"], [.titlecaseLetter]),
  (["lc", "casedletter"], [.uppercaseLetter, .lowercaseLetter, .titlecaseLetter]),
  (["lm", "modifierletter"], [.modifierLetter]),
  (["lo", "otherletter"], [.otherLetter]),
  (["l", "letter"], [.uppercaseLetter, .lowercaseLetter, .titlecaseLetter, .modifierLetter,
    .otherLetter]),
  (["mn", "nonspacingmark"], [.nonspacingMark]),
  (["mc", "spacingmark"], [.spacingMark]),
  (["me", "enclosingmark"], [.enclosingMark]),
  (["m", "mark", "combiningmark"], [.nonspacingMark, .spacingMark, .enclosingMark]),
  (["nd", "decimalnumber", "digit"], [.decimalNumber]),
  (["nl", "letternumber"], [.letterNumber]),
  (["no", "othernumber"], [.otherNumber]),
  (["n", "number"], [.decimalNumber, .letterNumber, .otherNumber]),
  (["pc", "connectorpunctuation"], [.connectorPunctuation]),
  (["pd", "dashpunctuation"], [.dashPunctuation]),
  (["ps", "openpunctuation"], [.openPunctuation]),
  (["pe", "closepunctuation"], [.closePunctuation]),
  (["pi", "initialpunctuation"], [.initialPunctuation]),
  (["pf", "finalpunctuation"], [.finalPunctuation]),
  (["po", "otherpunctuation"], [.otherPunctuation]),
  (["p", "punctuation", "punct"], [.connectorPunctuation, .dashPunctuation, .openPunctuation,
    .closePunctuation, .initialPunctuation, .finalPunctuation, .otherPunctuation]),
  (["sm", "mathsymbol"], [.mathSymbol]),
  (["sc", "currencysymbol"], [.currencySymbol]),
  (["sk", "modifiersymbol"], [.modifierSymbol]),
  (["so", "othersymbol"], [.otherSymbol]),
  (["s", "symbol"], [.mathSymbol, .currencySymbol, .modifierSymbol, .otherSymbol]),
  (["zs", "spaceseparator"], [.spaceSeparator]),
  (["zl", "lineseparator"], [.lineSeparator]),
  (["zp", "paragraphseparator"], [.paragraphSeparator]),
  (["z", "separator"], [.spaceSeparator, .lineSeparator, .paragraphSeparator]),
  (["cc", "control", "cntrl"], [.control]),
  (["cf", "format"], [.format]),
  (["co", "privateuse"], [.privateUse])]

def allCategories : CharSet := .ranges (Category.table.flatMap (·.2))

def categoryNamed? (name : Text) : Option CharSet :=
  let name := String.ofList name
  match name with
  | "any" => some .all
  | "assigned" => some allCategories
  | "ascii" => some .ascii
  | "cn" | "unassigned" => some (.compl allCategories)
  | "cs" | "surrogate" => some .none
  | "c" | "other" =>
    some (.union (.category [.control, .format, .privateUse]) (.compl allCategories))
  | _ => (categories.find? fun row => row.1.contains name).map fun row => .category row.2

def scriptNamed? (name : Text) : Option CharSet :=
  (scripts.find? fun row => row.names.contains (String.ofList name)).map fun row => .ranges row.ranges

/-- Identifiers start with letters and with the few characters that once were letters. -/
def identifierStart : CharSet :=
  .diff
    (.union (.category [.uppercaseLetter, .lowercaseLetter, .titlecaseLetter, .modifierLetter,
        .otherLetter, .letterNumber])
      (.ranges [(0x1885, 0x1886), (0x2118, 0x2118), (0x212e, 0x212e), (0x309b, 0x309c)]))
    (.single '\u2e2f')

def identifierContinue : CharSet :=
  .union identifierStart
    (.union (.category [.nonspacingMark, .spacingMark, .decimalNumber, .connectorPunctuation])
      (.ranges [(0xb7, 0xb7), (0x387, 0x387), (0x1369, 0x1371), (0x19da, 0x19da),
        (0x200c, 0x200d), (0x30fb, 0x30fb), (0xff65, 0xff65)]))

def graphemeBase : CharSet :=
  .diff allCategories
    (.union (.category [.control, .format, .privateUse, .lineSeparator, .paragraphSeparator])
      (.ranges Text.graphemeExtendRanges))

def propertyNamed? (name : Text) : Option CharSet :=
  let name := String.ofList name
  match name with
  | "ids" | "idstart" => some identifierStart
  | "idc" | "idcontinue" => some identifierContinue
  | "grbase" | "graphemebase" => some graphemeBase
  | _ => (properties.find? fun row => row.names.contains name).map fun row => .ranges row.ranges

/-- `\p` with a single name: a property, a category or a script, in this order. -/
def setNamed? (name : Text) : Option CharSet :=
  let name := plainName name
  let ambiguous := name == ['c', 'f'] || name == ['s', 'c'] || name == ['l', 'c']
  (if ambiguous then none else propertyNamed? name) <|> categoryNamed? name <|> scriptNamed? name

/-- `\p` with a property name and a value. Other properties are not known here: the age and the
script extensions of a character, and the classes that break a text into clusters, words and
sentences. -/
def setWithValue? (property value : Text) : Option CharSet :=
  match String.ofList (plainName property) with
  | "gc" | "generalcategory" => categoryNamed? (plainName value)
  | "sc" | "script" => scriptNamed? (plainName value)
  | _ => none

end Stenotype.Pattern
