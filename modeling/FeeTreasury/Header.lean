import FeeTreasury.Key
import FeeTreasury.Outcome

/-!
# Headers

The data of every account of the treasury opens with the tag of its type, a mark that it was set up,
and the bump that completes its address.
-/

namespace FeeTreasury

/-- What every account of the treasury starts with. -/
structure Header where
  /-- Tag of the account's type. -/
  tag : Tag
  /-- Whether the account was set up. -/
  initialized : Bool
  /-- Last seed of the account's address. -/
  bump : UInt8
  deriving DecidableEq, Repr, Inhabited

namespace Header

/-- The header of an account that was just set up. -/
def fresh (tag : Tag) (bump : UInt8) : Header := ⟨tag, true, bump⟩

/-- Data is taken for a type only if it carries the type's tag and was set up. -/
def validate (header : Header) (tag : Tag) : Outcome Unit := do
  require (header.tag = tag) .invalidDiscriminator
  require header.initialized .notInitialized

end Header

end FeeTreasury
