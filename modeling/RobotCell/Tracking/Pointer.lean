/-!
# RobotCell.Tracking.Pointer

The two execution cursors of a controller and the events that tell where they are.
-/

namespace RobotCell

/-- An execution cursor. -/
inductive PointerKind where
  /-- The statement that is being interpreted. -/
  | program
  /-- The move that the robot is performing. -/
  | motion
  deriving DecidableEq

def PointerKind.name : PointerKind → String
  | .program => "Program"
  | .motion => "Motion"

/-- A cursor has moved. -/
structure PointerEvent where
  kind : PointerKind
  module : String
  row : Nat
  deriving DecidableEq

end RobotCell
