import Stenotype.Orthography.Basic

/-!
# Spanish suffix rules

The first row that matches a word and a suffix gives the result; digits in a result stand for what
the groups of the pattern took.
-/

set_option autoImplicit false

namespace Stenotype.Orthography

def spanishTable : List TableRow := [
  (r"^(.+)ando \^ (le|me|te|la|lo|se)$", "1ándo2"),
  (r"^(.+)iendo \^ (le|me|te|la|lo|se)$", "1iéndo2"),
  (r"^(.*(?:s|sh|x|z|zh)) \^ s$", "1es"),
  (r"^(.*(?:oa|ea|i|ee|oo|au|ou|l|n|t|(?:^|[^a])r|(?:^|[^gin])ar)ch) \^ s$", "1es"),
  (r"^(.+[bcdfghjklmnpqrstvwxz])y \^ s$", "1ies"),
  (r"^(.+)ie \^ ing$", "1ying"),
  (r"^(.+[cdfghlmnpr])y \^ ist$", "1ist"),
  (r"^(.+[bcdfghjklmnpqrstvwxz])y \^ ([a-hj-xz].*)$", "1i2"),
  (r"^(.+)y \^ (ial|ially)$", "12"),
  (r"^(.+)tor \^ (ial|ials|ially|iality|ialities)$", "1tor2"),
  (r"^(.+)al \^ olog(y|ist|ists|ical|ically)$", "1olog2"),
  (r"^(.+)ology \^ (ist|ists)$", "1olog2"),
  (r"^(.+e)e \^ (e.+)$", "12"),
  (r"^(.+[bcdfghjklmnpqrstuvwxz])e \^ ([aeiouy].*)$", "12"),
  (r"^(.*(?:[bcdfghjklmnprstvwxyz]|qu)[aeiou])([bcdfgklmnprtvz]) \^ ([aeiouy].*)$", "1223")]

def spanish : Orthography := ofTable spanishTable

end Stenotype.Orthography
