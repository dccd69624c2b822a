import Stenotype.Text.Hex
import Stenotype.Text.Kinds

/-!
# Quoted text

Text between quotes, on one line and in printable characters: quotes, backslashes and the common
controls are written with a backslash, whatever else cannot be seen by its number.
-/

set_option autoImplicit false

namespace Stenotype.Text

def escapeByNumber (c : Char) : Text := "\\u\x7b".toList ++ hexDigits c.toNat ++ ['\x7d']

def quoteChar (quote c : Char) : Text :=
  if c = '\x00' then ['\\', '0']
  else if c = '\t' then ['\\', 't']
  else if c = '\r' then ['\\', 'r']
  else if c = '\n' then ['\\', 'n']
  else if c = '\\' then ['\\', '\\']
  else if c = quote then ['\\', quote]
  else if extendsGrapheme c || !isPrintable c then escapeByNumber c
  else [c]

def quoted (s : Text) : Text := '"' :: (s.flatMap (quoteChar '"') ++ ['"'])

def quotedChar (c : Char) : Text := '\'' :: (quoteChar '\'' c ++ ['\''])

end Stenotype.Text
