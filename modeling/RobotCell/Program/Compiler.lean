import RobotCell.Motion.Catalog
import RobotCell.Program.Broadcast
import RobotCell.Program.Statement

/-!
# RobotCell.Program.Compiler

Target lists compiled to declarations and instructions.

Target `i` of a set is declared under the name `<set><i>` and used by instruction `i`, so that the
two lists stay aligned with the targets; an arc declares `cir<set><i>` and `to<set><i>`.  Speeds
and zones are parallel lists that cycle to their first element.

A call fails at the first fault in this order: no targets, unpaired arc points, an invalid pose,
an empty speed list, an empty zone list, a level that cannot be snapped.
-/

namespace RobotCell

/-! ## Compiled sets -/

/-- The declarations and instructions made from one target list. -/
structure CompiledSet where
  declarations : List Declaration := []
  instructions : List Instruction := []
  deriving DecidableEq

namespace CompiledSet

def declarationTexts (s : CompiledSet) : List String := s.declarations.map (·.text)

def instructionTexts (s : CompiledSet) : List String := s.instructions.map (·.text)

/-- The names that a set declares, in order. -/
def names (s : CompiledSet) : List String := s.declarations.flatMap (·.names)

/-- A set followed by another. -/
def append (s t : CompiledSet) : CompiledSet :=
  ⟨s.declarations ++ t.declarations, s.instructions ++ t.instructions⟩

instance : Append CompiledSet := ⟨append⟩

/-- The set of paired declarations and instructions. -/
def ofPairs (pairs : List (Declaration × Instruction)) : CompiledSet :=
  ⟨pairs.map (·.1), pairs.map (·.2)⟩

end CompiledSet

/-! ## Walking lists -/

/-- The first failure of a check along a list. -/
def checkAll (check : α → Except Failure Unit) : List α → Except Failure Unit
  | [] => .ok ()
  | a :: rest =>
    match check a with
    | .error e => .error e
    | .ok () => checkAll check rest

/-- The results along a list with positions from `i`, or the first failure. -/
def emitFrom (i : Nat) (emit : Nat → α → Except Failure β) : List α → Except Failure (List β)
  | [] => .ok []
  | a :: rest =>
    match emit i a with
    | .error e => .error e
    | .ok b =>
      match emitFrom (i + 1) emit rest with
      | .error e => .error e
      | .ok bs => .ok (b :: bs)

/-! ## The compiler -/

/-- The catalogs that levels are snapped to. -/
structure Compiler where
  speeds : Catalog := .standardSpeeds
  zones : Catalog := .standardZones

/-- What a list of moves has in common: parallel speeds and zones, and the name of the set. -/
structure MoveList where
  set : String
  speeds : List MotionParameter
  zones : List MotionParameter
  frames : Frames := {}
  deriving DecidableEq

/-- The name of item `i` of a set. -/
def itemName (set : String) (i : Nat) : String := set ++ toString i

namespace Compiler

/-- The symbols of a speed and a zone; the speed is resolved first. -/
def resolvePair (c : Compiler) (speed zone : MotionParameter) :
    Except Failure (String × String) :=
  match speed.resolve c.speeds with
  | .error e => .error e
  | .ok speed =>
    match zone.resolve c.zones with
    | .error e => .error e
    | .ok zone => .ok (speed, zone)

/-- The constant of a target. -/
def targetBinding (name : String) (target : Target) : Binding :=
  ⟨.const, target.dataType, name, some target.literal⟩

/-- One move to a target. -/
def emitMove (c : Compiler) (kind : MoveKind) (m : MoveList) (i : Nat)
    (x : Target × MotionParameter × MotionParameter) :
    Except Failure (Declaration × Instruction) :=
  match c.resolvePair x.2.1 x.2.2 with
  | .error e => .error e
  | .ok (speed, zone) =>
    let name := itemName m.set i
    .ok ({ index := i, names := [name], text := (targetBinding name x.1).text },
      { index := i, opcode := kind.opcode, speed := some speed, zone := some zone
        text := (Statement.move kind name speed zone m.frames).text })

/-- One arc through a point to a destination. -/
def emitArc (c : Compiler) (m : MoveList) (i : Nat)
    (x : (Pose × Pose) × MotionParameter × MotionParameter) :
    Except Failure (Declaration × Instruction) :=
  match c.resolvePair x.2.1 x.2.2 with
  | .error e => .error e
  | .ok (speed, zone) =>
    let via := itemName ("cir" ++ m.set) i
    let destination := itemName ("to" ++ m.set) i
    .ok ({ index := i, names := [via, destination]
           text := (targetBinding via (.cartesian x.1.1)).text ++
             (targetBinding destination (.cartesian x.1.2)).text },
      { index := i, opcode := "MoveC", speed := some speed, zone := some zone
        text := (Statement.moveC via destination speed zone m.frames).text })

/-- Pairs points with their speeds and zones and emits them in order. -/
def emitMoves (points : List α) (m : MoveList)
    (emit : Nat → α × MotionParameter × MotionParameter →
      Except Failure (Declaration × Instruction)) : Except Failure CompiledSet :=
  match broadcast "speed" m.speeds points.length with
  | .error e => .error e
  | .ok speeds =>
    match broadcast "zone" m.zones points.length with
    | .error e => .error e
    | .ok zones =>
      match emitFrom 0 emit (points.zip (speeds.zip zones)) with
      | .error e => .error e
      | .ok pairs => .ok (.ofPairs pairs)

/-- Moves of one kind to a list of targets. -/
def moves (c : Compiler) (kind : MoveKind) (targets : List Target) (m : MoveList) :
    Except Failure CompiledSet :=
  if targets.isEmpty then .error .emptyTargetList
  else
    match checkAll Target.validate targets with
    | .error e => .error e
    | .ok () => emitMoves targets m (c.emitMove kind m)

/-- Linear moves to Cartesian targets. -/
def moveL (c : Compiler) (targets : List Pose) (m : MoveList) : Except Failure CompiledSet :=
  c.moves .moveL (targets.map .cartesian) m

/-- Joint-interpolated moves to Cartesian targets. -/
def moveJ (c : Compiler) (targets : List Pose) (m : MoveList) : Except Failure CompiledSet :=
  c.moves .moveJ (targets.map .cartesian) m

/-- Moves to joint targets. -/
def moveAbsJ (c : Compiler) (targets : List JointPose) (m : MoveList) :
    Except Failure CompiledSet :=
  c.moves .moveAbsJ (targets.map .joint) m

/-- Arcs: the `i`-th goes through `via[i]` to `destinations[i]`. -/
def moveC (c : Compiler) (via destinations : List Pose) (m : MoveList) :
    Except Failure CompiledSet :=
  if destinations.isEmpty then .error .emptyTargetList
  else if via.length ≠ destinations.length then
    .error (.mismatchedTargets via.length destinations.length)
  else
    match checkAll Pose.validate (via ++ destinations) with
    | .error e => .error e
    | .ok () => emitMoves (via.zip destinations) m (c.emitArc m)

/-- One move of an independent axis, to an angle declared as a variable. -/
def emitAxisMove (c : Compiler) (unit set : String) (i : Nat)
    (x : Binary64 × UInt8 × MotionParameter) : Except Failure (Declaration × Instruction) :=
  match x.2.2.resolve c.speeds with
  | .error e => .error e
  | .ok speed =>
    let name := itemName set i
    .ok ({ index := i, names := [name]
           text := (⟨.variable, "num", name, some (numberText x.1)⟩ : Binding).text },
      { index := i, opcode := "IndAMove", speed := some speed, zone := none
        text := (Statement.indAMove unit x.2.1 name speed).text })

/-- Moves of independent axes of a mechanical unit, one for each position in degrees. -/
def indAMove (c : Compiler) (unit : String) (axes : List UInt8) (positions : List Binary64)
    (speeds : List MotionParameter) (set : String) : Except Failure CompiledSet :=
  if positions.isEmpty then .error .emptyTargetList
  else
    match broadcast "axis" axes positions.length with
    | .error e => .error e
    | .ok axes =>
      match broadcast "speed" speeds positions.length with
      | .error e => .error e
      | .ok speeds =>
        match emitFrom 0 (c.emitAxisMove unit set) (positions.zip (axes.zip speeds)) with
        | .error e => .error e
        | .ok pairs => .ok (.ofPairs pairs)

/-- Statements without data, speed and zone, as a set. -/
def statementSet (statements : List Statement) : CompiledSet where
  instructions := statements.mapIdx fun i s =>
    { index := i, opcode := s.opcode, speed := none, zone := none, text := s.text }

/-- Resets of independent axes, one for each axis. -/
def indReset (unit : String) (axes : List UInt8) (references : List Binary64) :
    Except Failure CompiledSet :=
  if axes.isEmpty then .error .emptyTargetList
  else
    match broadcast "reference" references axes.length with
    | .error e => .error e
    | .ok references =>
      .ok (statementSet ((axes.zip references).map fun x => .indReset unit x.1 x.2))

/-- Statements given as text. -/
def custom (bodies : List String) : CompiledSet := statementSet (bodies.map .custom)

end Compiler

end RobotCell
