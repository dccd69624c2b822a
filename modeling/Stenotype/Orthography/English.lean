import Stenotype.Orthography.Basic

/-!
# English suffix rules

The first row that matches a word and a suffix gives the result; digits in a result stand for what
the groups of the pattern took.
-/

set_option autoImplicit false

namespace Stenotype.Orthography

def englishTable : List TableRow := [
  (r"^(.*[aeiou]c) \^ ly$", "1ally"),
  (r"^(.+[aeioubmnp])le \^ ly$", "1ly"),
  (r"^(.*t)e \^ (ry|ary)$", "1ory"),
  (r"^(.+)m \^ tor(y|ily)$", "1mator2"),
  (r"^(.+)se \^ ar(y|ies)$", "1sor2"),
  (r"^(.*[naeiou])te? \^ cy$", "1cy"),
  (r"^(.*(?:s|sh|x|z|zh)) \^ s$", "1es"),
  (r"^(.*(?:oa|ea|i|ee|oo|au|ou|l|n|t|(?:^|[^a])r|(?:^|[^gin])ar)ch) \^ s$", "1es"),
  (r"^(.+[bcdfghjklmnpqrstvwxz])y \^ s$", "1ies"),
  (r"^(.+)ie \^ ing$", "1ying"),
  (r"^(.+[cdfghlmnpr])y \^ ist$", "1ist"),
  (r"^(.+[bcdfghjklmnpqrstvwxz])y \^ ([a-hj-xz].*)$", "1i2"),
  (r"^(.+)te \^ en$", "1tten"),
  (r"^(.+[ae]) \^ e(n|ns)$", "12"),
  (r"^(.+)y \^ (ial|ially)$", "12"),
  (r"^(.+)i \^ if(y|ying|ied|ies|ication|ications)$", "1if2"),
  (r"^(.+)ic \^ (ical|ically)$", "12"),
  (r"^(.+)ology \^ ic(al|ally)$", "1ologic2"),
  (r"^(.*)ry \^ ica(l|lly|lity)$", "1rica2"),
  (r"^(.*[l]) \^ is(t|ts)$", "1is2"),
  (r"^(.*)ry \^ ity$", "1rity"),
  (r"^(.*)l \^ ity$", "1lity"),
  (r"^(.+)rm \^ tiv(e|ity|ities)$", "1rmativ2"),
  (r"^(.+)e \^ tiv(e|ity|ities)$", "1ativ2"),
  (r"^(.+)y \^ iz(e|es|ing|ed|er|ers|ation|ations|able|ability)$", "1iz2"),
  (r"^(.+)y \^ is(e|es|ing|ed|er|ers|ation|ations|able|ability)$", "1is2"),
  (r"^(.+)al \^ iz(e|ed|es|ing|er|ers|ation|ations|m|ms|able|ability|abilities)$", "1aliz2"),
  (r"^(.+)al \^ is(e|ed|es|ing|er|ers|ation|ations|m|ms|able|ability|abilities)$", "1alis2"),
  (r"^(.+)ar \^ iz(e|ed|es|ing|er|ers|ation|ations|m|ms)$", "1ariz2"),
  (r"^(.+)ar \^ is(e|ed|es|ing|er|ers|ation|ations|m|ms)$", "1aris2"),
  (r"^(.*[lmnty]) \^ iz(e|es|ing|ed|er|ers|ation|ations|m|ms|able|ability|abilities)$", "1iz2"),
  (r"^(.*[lmnty]) \^ is(e|es|ing|ed|er|ers|ation|ations|m|ms|able|ability|abilities)$", "1is2"),
  (r"^(.+)al \^ olog(y|ist|ists|ical|ically)$", "1olog2"),
  (r"^(.+)(ar|er|or) \^ ish$", "12ish"),
  (r"^(.+e)e \^ (e.+)$", "12"),
  (r"^(.+[bcdfghjklmnpqrstuvwxz])e \^ ([aeiouy].*)$", "12"),
  (r"^(.*(?:[bcdfghjklmnprstvwxyz]|qu)[aeiou])([bcdfgklmnprtvz]) \^ ([aeiouy].*)$", "1223")]

def english : Orthography := ofTable englishTable

end Stenotype.Orthography
