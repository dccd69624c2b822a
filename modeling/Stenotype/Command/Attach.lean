import Stenotype.Command.Basic

/-!
# Attached text

`^` at the start attaches text to the output, `^` at the end attaches what comes next. Text that is
attached to a word is a suffix: the word may change by the suffix rules, and then only what differs
is taken back and typed again.
-/

set_option autoImplicit false

namespace Stenotype

/-- Text without the `^` at its ends, and whether they were there. -/
structure Affix where
  attachesBefore : Bool
  attachesAfter : Bool
  content : Text

namespace Affix

def cutEnd (s : Text) : Bool × Text :=
  match Text.beforeEnd? ['^'] s with
  | some r => (true, r)
  | none => (false, s)

def ofText (s : Text) : Affix :=
  match s with
  | '^' :: r =>
    let (after, content) := cutEnd r
    ⟨true, after || r.isEmpty, content⟩
  | s =>
    let (after, content) := cutEnd s
    ⟨false, after, content⟩

def ofCarryText (s : Text) : Affix :=
  let (before, r) := match s with
    | '^' :: r => (true, r)
    | r => (false, r)
  let r := (Text.afterStart? ['~', '|'] r).getD r
  let (after, content) := cutEnd r
  ⟨before, after, content⟩

def mark (x : Affix) (a : Action) : Action :=
  if x.attachesAfter then
    { a with prevAttach := x.attachesBefore, nextAttach := true, wordIsFinished := false }
  else { a with prevAttach := x.attachesBefore }

end Affix

def Text.hasWordBoundary (s : Text) : Bool := s.any fun c => !(isAlphanumeric c || c = '_')

namespace Context

theorem replace_mark (x : Affix) (a : Action) : (x.mark a).replace = a.replace := by
  unfold Affix.mark
  split <;> rfl

theorem prevAttach_mark (x : Affix) (a : Action) : (x.mark a).prevAttach = x.attachesBefore := by
  unfold Affix.mark
  split <;> rfl

theorem nextAttach_mark (x : Affix) (a : Action) :
    (x.mark a).nextAttach = (x.attachesAfter || a.nextAttach) := by
  unfold Affix.mark
  split <;> simp_all

theorem glue_mark (x : Affix) (a : Action) : (x.mark a).glue = a.glue := by
  unfold Affix.mark
  split <;> rfl

theorem text_mark (x : Affix) (a : Action) : (x.mark a).text = a.text := by
  unfold Affix.mark
  split <;> rfl

theorem case_mark (x : Affix) (a : Action) : (x.mark a).case = a.case := by
  unfold Affix.mark
  split <;> rfl

theorem spaceChar_mark (x : Affix) (a : Action) : (x.mark a).spaceChar = a.spaceChar := by
  unfold Affix.mark
  split <;> rfl

/-- Joins its neighbours, and keeps suffix rules from reaching across. -/
def orthographyBreak (c : Context) (a : Action) : Action :=
  c.place
    { a with
      orthography := false, word := c.last.word, capitalize := c.last.capitalize
      lower := c.last.lower, upper := c.last.upper, upperCarry := c.last.upperCarry } []

def usesOrthography (c : Context) (x : Affix) : Bool :=
  !c.last.word.isEmpty && c.last.orthography && !Text.isAllBlank x.content &&
    (!x.attachesAfter || x.content.hasWordBoundary)

/-- The end of the output that stands for the last `n` characters of the word, without the
separator after it. -/
def wordTail (c : Context) (n : Nat) : Text :=
  let sep := c.pendingSeparator
  let tail := Text.takeLast (n + sep.length) c.output
  (Text.beforeEnd? sep tail).getD tail

/-- The word and the content by the suffix rules: what differs is taken back and typed again. -/
def rewriteWord (c : Context) (a : Action) (content : Text) : Action × Text :=
  let old := c.last.word
  let new := c.orthography.addSuffix old content
  let common := Text.commonLength old new
  let replaced := old.length - common
  let a := if replaced = 0 then a else { a with replace := c.wordTail replaced }
  let word := Text.rightmostWord new
  let typed := new.drop common
  if c.last.upperCarry then
    ({ a with word := Text.upper word, upperCarry := true }, Text.upper typed)
  else ({ a with word := word }, typed)

def extendWord (c : Context) (a : Action) (content : Text) : Action × Text :=
  let typed := c.applyOneShot content true
  ({ a with
      upperCarry := c.wantsUpper true
      word := Text.rightmostWord (c.last.word ++ typed) }, typed)

def suffix (c : Context) (a : Action) (x : Affix) : Action :=
  let (a, typed) :=
    if c.usesOrthography x then c.rewriteWord a x.content else c.extendWord a x.content
  c.place a (applyModes a true typed)

def attach (c : Context) (s : Text) : Action :=
  let x := Affix.ofText s
  let a := x.mark c.newAction
  if x.content.isEmpty then c.orthographyBreak a
  else if !x.attachesBefore then c.renderWord a x.content
  else c.suffix a x

/-- Text that a pending capital passes over. -/
def carryCapitalize (c : Context) (s : Text) : Action :=
  let x := Affix.ofCarryText s
  let a := x.mark { c.newAction with capitalize := c.last.capitalize }
  if x.content.isEmpty && !x.attachesBefore && !x.attachesAfter then { a with word := c.last.word }
  else
    let joined := if c.isAttached a then c.last.word ++ x.content else x.content
    c.place { a with word := Text.rightmostWord joined } x.content

end Context
end Stenotype
