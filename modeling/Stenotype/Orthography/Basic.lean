import Stenotype.Pattern.Basic
import Stenotype.Settings.Basic

/-!
# Orthography

A suffix joins a word by the first rule whose pattern matches `word ^ suffix`, capital and small
letters alike; the rule's template then is the whole result. Without such a rule the suffix is
appended. The patterns that a user writes, in rules and in conditionals, go through one reader.
-/

set_option autoImplicit false

namespace Stenotype

structure SuffixRule where
  pattern : Pattern
  template : Pattern.Template

namespace SuffixRule

def candidate (word suffix : Text) : Text := word ++ [' ', '^', ' '] ++ suffix

def join? (r : SuffixRule) (word suffix : Text) : Option Text :=
  r.pattern.expandMatch? r.template (candidate word suffix)

end SuffixRule

structure InvalidPattern where
  pattern : Text
  deriving DecidableEq, Repr

structure Orthography where
  rules : List SuffixRule
  /-- Reads the patterns of conditionals. -/
  reader : Pattern.Reader := .standard

namespace Orthography

def empty : Orthography := { rules := [] }

def addSuffix (o : Orthography) (word suffix : Text) : Text :=
  (o.rules.findSome? fun r => r.join? word suffix).getD (word ++ suffix)

def ruleOf (reader : Pattern.Reader) (s : RuleSettings) : Except InvalidPattern SuffixRule :=
  match reader.read? true s.pattern with
  | some p => .ok ⟨p, Pattern.Template.read s.replacement⟩
  | none => .error ⟨s.pattern⟩

/-- A row of a rule table: the pattern, and the template with single digits for groups. -/
abbrev TableRow := String × String

def templateOfRow (s : String) : Pattern.Template :=
  s.toList.map fun c => if c.isDigit then .group [c] else .literal c

def ofTable (rows : List TableRow) : Orthography :=
  { rules := rows.filterMap fun (source, template) =>
      (Pattern.ofSource? true source.toList).map fun p => ⟨p, templateOfRow template⟩ }

end Orthography
end Stenotype
