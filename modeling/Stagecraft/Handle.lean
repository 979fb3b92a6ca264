/-!
Handles: the numbers by which a scene knows its entities and the kinds of its components.
-/

namespace Stagecraft

structure Entity where
  id : Nat
deriving DecidableEq, Repr, Inhabited

/-- A kind of component in a scene. Kinds are numbered in the order of their registration, so the
same component may have another number in another scene. -/
structure ComponentId where
  index : Nat
deriving DecidableEq, Repr, Inhabited

end Stagecraft
