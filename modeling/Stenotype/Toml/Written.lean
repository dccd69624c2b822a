import Stenotype.Toml.Basic
import Stenotype.Text.Case
import Stenotype.Text.Quoted

/-!
# Writing strings

A string is written with the quotes that need the fewest escapes: double quotes, else single ones,
else three of a kind. Text of several lines starts on a line of its own.
-/

set_option autoImplicit false

namespace Stenotype.Toml

/-- The longest run of `q`, where `run` is the one just before. -/
def longestRun (q : Char) (run : Nat) : Text → Nat
  | [] => run
  | c :: r => if c = q then longestRun q (run + 1) r else max run (longestRun q 0 r)

def needsEscape (c : Char) : Bool :=
  (c.toNat < 0x20 && c ≠ '\t' && c ≠ '\n') || c.toNat = 0x7f

def fourDigits (n : Nat) : Text :=
  let digits := Text.asciiUpper (Text.hexDigits n)
  List.replicate (4 - digits.length) '0' ++ digits

/-- The characters of a string in double quotes; `quotes` of them may stand in a row, of which
`run` just went before, and line ends may stand if there are three. -/
def escaped (lines : Bool) (quotes run : Nat) : Text → Text
  | [] => []
  | c :: r =>
    if c = '"' then
      if run < quotes then '"' :: escaped lines quotes (run + 1) r
      else '\\' :: '"' :: escaped lines quotes 0 r
    else
      let image : Text :=
        if c = '\x08' then ['\\', 'b']
        else if c = '\t' then ['\\', 't']
        else if c = '\n' then if lines then ['\n'] else ['\\', 'n']
        else if c = '\x0c' then ['\\', 'f']
        else if c = '\r' then ['\\', 'r']
        else if c = '\\' then ['\\', '\\']
        else if needsEscape c then '\\' :: 'u' :: fourDigits c.toNat
        else [c]
      image ++ escaped lines quotes 0 r

def writeBasic (s : Text) : Text := '"' :: (escaped false 0 0 s ++ ['"'])

def writeLiteral (s : Text) : Text := '\'' :: (s ++ ['\''])

def firstNewline (s : Text) : Text := if s.contains '\n' then ['\n'] else []

def writeMultiBasic (s : Text) : Text :=
  ['"', '"', '"'] ++ firstNewline s ++ escaped true 2 0 s ++ ['"', '"', '"']

def writeMultiLiteral (s : Text) : Text :=
  ['\'', '\'', '\''] ++ firstNewline s ++ s ++ ['\'', '\'', '\'']

def writeString (s : Text) : Text :=
  let controls := s.any needsEscape
  let lines := s.contains '\n'
  let backslash := s.contains '\\'
  let doubles := longestRun '"' 0 s
  let singles := longestRun '\'' 0 s
  if !controls && !backslash && doubles = 0 && !lines then writeBasic s
  else if !controls && singles = 0 && !lines then writeLiteral s
  else if !controls && !backslash && doubles ≤ 2 then writeMultiBasic s
  else if !controls && singles ≤ 2 then writeMultiLiteral s
  else if lines then writeMultiBasic s
  else writeBasic s

end Stenotype.Toml
