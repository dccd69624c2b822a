import Stenotype.Text.Category
import Stenotype.Text.Letters

/-!
# Kinds of characters

Blanks separate words, letters and numbers make key names and words, and marks join the character
before them. ASCII is decided directly, everything else by table.
-/

set_option autoImplicit false

namespace Stenotype.Text

def blankRanges : Ranges :=
  [(0x9, 0xd), (0x20, 0x20), (0x85, 0x85), (0xa0, 0xa0), (0x1680, 0x1680), (0x2000, 0x200a),
    (0x2028, 0x2029), (0x202f, 0x202f), (0x205f, 0x205f), (0x3000, 0x3000)]

def isBlank (c : Char) : Bool := blankRanges.contains c

def isAscii (c : Char) : Bool := c.toNat < 0x80

def isAlphabetic (c : Char) : Bool :=
  if isAscii c then c.isAlpha else alphabeticRanges.contains c

def isNumeric (c : Char) : Bool :=
  if isAscii c then c.isDigit
  else Category.decimalNumberRanges.contains c || Category.letterNumberRanges.contains c ||
    Category.otherNumberRanges.contains c

def isAlphanumeric (c : Char) : Bool := isAlphabetic c || isNumeric c

def isCased (c : Char) : Bool := if isAscii c then c.isAlpha else casedRanges.contains c

def isCaseIgnorable (c : Char) : Bool := caseIgnorableRanges.contains c

def extendsGrapheme (c : Char) : Bool := !isAscii c && graphemeExtendRanges.contains c

/-- Characters that leave ink or are the ordinary space. -/
def isPrintable (c : Char) : Bool :=
  if isAscii c then 0x20 ≤ c.toNat && c.toNat < 0x7f
  else match Category.ofChar c with
    | .control | .format | .privateUse | .unassigned => false
    | .spaceSeparator | .lineSeparator | .paragraphSeparator => false
    | _ => true

end Stenotype.Text
