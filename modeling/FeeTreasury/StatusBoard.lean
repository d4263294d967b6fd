import FeeTreasury.Header

/-!
# Suspensions

A manual circuit breaker: each section of the system is active or suspended, with a reason. An
operation names the sections it needs, and the first suspended one of them turns it down.
-/

namespace FeeTreasury

/-- Whether a section is suspended, and why. -/
structure Suspension where
  suspended : Bool
  reason : UInt16
  deriving DecidableEq, Repr, Inhabited

namespace Suspension

/-- An active section. -/
def none : Suspension := ⟨false, 0⟩

end Suspension

/-- The account of suspensions. There is one. -/
structure StatusBoard where
  header : Header
  /-- One suspension per section, at the section's position. -/
  sections : Vector Suspension 4
  /-- Time of the last change. -/
  lastUpdate : Int64
  deriving DecidableEq, Repr, Inhabited

namespace StatusBoard

/-- A board with every section active. -/
def new (bump : UInt8) : StatusBoard where
  header := Header.fresh .statusBoard bump
  sections := Vector.replicate 4 Suspension.none
  lastUpdate := 0

/-- What holds for a section. -/
def suspension (board : StatusBoard) (part : Section) : Suspension := board.sections[part.index]

/-- Whether a section is suspended. -/
def isSuspended (board : StatusBoard) (part : Section) : Bool := (board.suspension part).suspended

/-- Suspend or resume a section. A section that is resumed has no reason. -/
def setSuspension (board : StatusBoard) (part : Section) (suspended : Bool) (reason : UInt16)
    (now : Int64) : StatusBoard :=
  { board with
    sections := board.sections.set part.index ⟨suspended, if suspended then reason else 0⟩
    lastUpdate := now }

/-- Go on only if none of the sections is suspended. The first suspended one is the reason. -/
def requireActive (board : StatusBoard) (parts : List Section) : Outcome Unit :=
  match parts.find? board.isSuspended with
  | some part => refuse (.suspended part)
  | none => .ok ()

end StatusBoard

namespace Section

/-- The section with a number on the wire. -/
def ofNumber (n : UInt8) : Outcome Section :=
  if within : n.toNat < 4 then .ok (ofIndex ⟨n.toNat, within⟩) else refuse .unknownSection

end Section

end FeeTreasury
