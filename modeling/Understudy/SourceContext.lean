import Understudy.Path
import Understudy.SignaturePolicy

/-!
What every member built from one file shares.
-/

namespace Understudy

structure SourceContext where
  path : Path
  source : String
  /-- The file holds mocks that were generated before. -/
  processed : Bool
  /-- The text that selects a declaration when the comment above it contains it. -/
  marker : String
  policy : SignaturePolicy
deriving Repr

/-- Where a member was declared. -/
structure Origin where
  path : Path
  offset : Nat
  length : Nat
  processed : Bool
deriving DecidableEq, Repr

def SourceContext.originOf (context : SourceContext) (offset length : Nat) : Origin :=
  ⟨context.path, offset, length, context.processed⟩

end Understudy
