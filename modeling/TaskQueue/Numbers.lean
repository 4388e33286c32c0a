/-!
# Powers and sums of numbers

A power of numbers is the one the language computes, and a sum of numbers begins at the literal zero.  A
library of algebra offers other readings of the same notation; these come first, so that what is defined
with them does not depend on whether one is imported.
-/

set_option autoImplicit false

namespace TaskQueue

@[default_instance 10000]
instance (priority := 10000) natPower : Pow Nat Nat := instPowNat

@[default_instance 10000]
instance (priority := 10000) intPower : Pow Int Nat := instPowNat

instance (priority := 10000) natZero : Zero Nat := Zero.ofOfNat0

end TaskQueue
