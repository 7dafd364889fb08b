import RobotCell.Controller.Session
import RobotCell.Text.Escape

/-!
# RobotCell.Controller.Description

A session described for its operator: the task, the state and the controller, without the
credentials.
-/

namespace RobotCell

/-- The named fields of a record, in braces. -/
def describeRecord (name : String) (fields : List (String × String)) : String :=
  name ++ " \x7b " ++ ", ".intercalate (fields.map fun f => f.1 ++ ": " ++ f.2) ++ " \x7d"

def ControllerHandle.describe (h : ControllerHandle) : String :=
  describeRecord "ControllerHandle"
    [("system_id", h.systemId.text), ("address", quoteVisible h.address),
      ("name", quoteVisible h.name)]

/-- A session without its user. -/
def Session.describe (s : Session) : String :=
  let handle :=
    match s.handle with
    | some h => "Some(" ++ h.describe ++ ")"
    | none => "None"
  describeRecord "ControllerSession"
    [("task", quoteVisible s.task), ("state", s.state.name), ("handle", handle)]

end RobotCell
