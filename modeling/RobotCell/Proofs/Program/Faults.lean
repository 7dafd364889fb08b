import RobotCell.Proofs.Motion.Check
import RobotCell.Proofs.Motion.Nearest
import RobotCell.Proofs.Program.Alignment

/-!
# RobotCell.Proofs.Program.Faults

When a call of the compiler fails, and how.

`CompileCall.faults` lists all that is wrong with a call, in the order in which a fault comes before
another: no targets, unpaired arc points, the targets that do not pass their check, the empty
parameter lists, and the levels that cannot be snapped, position by position.  A call fails with the
first of them and succeeds when there are none (`compile_fails_first`).  Only the parameters that a
target is paired with count, so that a call does the same as the call `trimmed` to them.
-/

namespace RobotCell

variable {α β : Type}

/-! ## First faults -/

/-- The result is the first of some faults, or a success when there are none. -/
def FailsFirst (result : Except Failure α) : List Failure → Prop
  | [] => ∃ a, result = .ok a
  | e :: _ => result = .error e

namespace FailsFirst

variable {result : Except Failure α} {faults later : List Failure}

/-- What follows a success has the later faults. -/
theorem bind {next : α → Except Failure β} (h : FailsFirst result faults)
    (hnext : ∀ a, result = .ok a → FailsFirst (next a) later) :
    FailsFirst (result.bind next) (faults ++ later) := by
  cases faults with
  | nil =>
      obtain ⟨a, rfl⟩ := h
      exact hnext a rfl
  | cons e rest =>
      obtain rfl : result = .error e := h
      exact rfl

/-- What fails and succeeds as a result does has its faults. -/
theorem congr {result' : Except Failure β} (h : FailsFirst result faults)
    (herror : ∀ e, result = .error e → result' = .error e)
    (hok : ∀ a, result = .ok a → ∃ b, result' = .ok b) : FailsFirst result' faults := by
  cases faults with
  | nil =>
      obtain ⟨a, ha⟩ := h
      exact hok a ha
  | cons e rest => exact herror e h

/-- What is made of a success adds no fault. -/
theorem map (h : FailsFirst result faults) (f : α → β) : FailsFirst (result.map f) faults :=
  h.congr (fun _ he => he ▸ rfl) fun a ha => ⟨f a, ha ▸ rfl⟩

/-- A guard has its own fault before those of what it guards. -/
theorem guard {p q : Prop} [Decidable p] [Decidable q] {e : Failure} (hpq : p ↔ q)
    (h : ¬q → FailsFirst result faults) :
    FailsFirst (if p then .error e else result) ((if q then [e] else []) ++ faults) := by
  by_cases hq : q
  · rw [if_pos hq, if_pos (hpq.mpr hq)]
    exact rfl
  · rw [if_neg hq, if_neg fun hp => hq (hpq.mp hp), List.nil_append]
    exact h hq

/-- The first fault is one of the faults. -/
theorem mem_of_error {e : Failure} (h : FailsFirst result faults) (he : result = .error e) :
    e ∈ faults := by
  cases faults with
  | nil =>
      obtain ⟨a, ha⟩ := h
      cases ha.symm.trans he
  | cons first rest =>
      cases (show result = .error first from h).symm.trans he
      exact List.mem_cons_self

end FailsFirst

/-! ## Walks -/

/-- What a check finds. -/
def faultsOf (check : Except Failure Unit) : List Failure :=
  match check with
  | .error e => [e]
  | .ok () => []

/-- A single check fails with its own fault. -/
theorem failsFirst_faultsOf (check : Except Failure Unit) : FailsFirst check (faultsOf check) := by
  cases check with
  | error e => exact rfl
  | ok _ => exact ⟨(), rfl⟩

/-- A list is checked one by one. -/
theorem checkAll_cons (check : α → Except Failure Unit) (a : α) (as : List α) :
    checkAll check (a :: as) = (check a).bind fun _ => checkAll check as := by
  rw [checkAll]
  cases check a <;> rfl

/-- A list is checked element by element. -/
theorem failsFirst_checkAll (check : α → Except Failure Unit) (as : List α) :
    FailsFirst (checkAll check as) (as.flatMap fun a => faultsOf (check a)) := by
  induction as with
  | nil => exact ⟨(), rfl⟩
  | cons a as ih =>
      rw [checkAll_cons, List.flatMap_cons]
      exact (failsFirst_faultsOf (check a)).bind fun _ _ => ih

/-- A list is emitted one by one, with its numbers. -/
theorem emitFrom_cons (n : Nat) (emit : Nat → α → Except Failure β) (a : α) (as : List α) :
    emitFrom n emit (a :: as) =
      (emit n a).bind fun b => (emitFrom (n + 1) emit as).map (b :: ·) := by
  rw [emitFrom]
  cases emit n a with
  | error e => rfl
  | ok b => cases emitFrom (n + 1) emit as <;> rfl

/-- A walk has the faults of its positions, one position after another. -/
theorem failsFirst_emitFrom {emit : Nat → α → Except Failure β} {faults : Nat → List Failure}
    {items : List α} {n : Nat}
    (h : ∀ i item, items[i]? = some item → FailsFirst (emit (n + i) item) (faults (n + i))) :
    FailsFirst (emitFrom n emit items) ((List.range' n items.length).flatMap faults) := by
  induction items generalizing n with
  | nil => exact ⟨[], rfl⟩
  | cons item items ih =>
      -- Item `i` of the rest, which is walked from `n + 1`, is item `i + 1` of the walk.
      have hlater : FailsFirst (emitFrom (n + 1) emit items)
          ((List.range' (n + 1) items.length).flatMap faults) := by
        refine ih fun i item' hitem => ?_
        have hnext := h (i + 1) item' hitem
        rwa [Nat.add_comm i 1, ← Nat.add_assoc] at hnext
      rw [emitFrom_cons, List.length_cons, List.range'_succ, List.flatMap_cons]
      exact (h 0 item rfl).bind fun b _ => hlater.map (b :: ·)

/-- The failures that a call of the compiler can end in. -/
def Failure.FromCompiler : Failure → Prop
  | .emptyTargetList | .mismatchedTargets _ _ | .invalidPose _ | .parameterListEmpty _
  | .invalidLevel _ => True
  | _ => False

/-! ## Parameters -/

/-- A level is wrong when it cannot be snapped. -/
def MotionParameter.faults : MotionParameter → List Failure
  | .level x => if x.isFinite then [] else [.invalidLevel x]
  | .symbol _ => []

/-- What is wrong with the entry of a parameter list at a position. -/
def entryFaults (list : List MotionParameter) (i : Nat) : List Failure :=
  match entryAt? list i with
  | some parameter => parameter.faults
  | none => []

/-- A parameter list has to have an element. -/
def lackFaults (label : String) (list : List α) : List Failure :=
  if list.isEmpty then [.parameterListEmpty label] else []

/-- Every catalog snaps every finite level, since it has an entry. -/
theorem MotionParameter.failsFirst_resolve (parameter : MotionParameter) (catalog : Catalog) :
    FailsFirst (parameter.resolve catalog) parameter.faults := by
  cases parameter with
  | symbol name => exact ⟨name, rfl⟩
  | level x =>
      by_cases hx : x.isFinite = true
      · obtain ⟨e, he⟩ := catalog.exists_isLeast (Catalog.roundedGap x)
        rw [faults, if_pos hx]
        exact ⟨e.symbol, Catalog.quantize_eq hx ((Catalog.picks_iff_isLeast hx).mpr he)⟩
      · rw [faults, if_neg hx]
        exact if_neg hx

/-- A list for at least one use fails just when it is empty. -/
theorem failsFirst_broadcast (label : String) (list : List α) {n : Nat} (hn : n ≠ 0) :
    FailsFirst (broadcast label list n) (lackFaults label list) := by
  cases list with
  | nil => exact if_neg hn
  | cons first rest => exact ⟨_, broadcast_cons label first rest n⟩

/-- A list is extended by the same element, wherever it is cut behind the length. -/
theorem broadcast_take (label : String) (list : List α) (n : Nat) :
    broadcast label (list.take n) n = (broadcast label list n).map (List.take n) := by
  cases list with
  | nil =>
      rw [List.take_nil, broadcast]
      split <;> simp [Except.map]
  | cons first rest =>
      cases n with
      | zero => rfl
      | succ n =>
          rw [List.take_succ_cons, broadcast_cons, broadcast_cons]
          refine congrArg Except.ok ?_
          rw [List.take_append, List.take_replicate, List.length_take, List.take_succ_cons,
            List.length_cons]
          congr 2
          omega

/-- An empty list is a fault of the compiler. -/
theorem fromCompiler_lackFaults (label : String) (list : List α) :
    ∀ e ∈ lackFaults label list, e.FromCompiler := by
  cases list with
  | nil => exact List.forall_mem_singleton.mpr trivial
  | cons first rest => exact List.forall_mem_nil _

/-- The faults of a level are faults of the compiler. -/
theorem fromCompiler_entryFaults (list : List MotionParameter) (i : Nat) :
    ∀ e ∈ entryFaults list i, e.FromCompiler := by
  rw [entryFaults]
  split
  · rename_i parameter _
    cases parameter with
    | symbol name => exact List.forall_mem_nil _
    | level x =>
        rw [MotionParameter.faults]
        split
        · exact List.forall_mem_nil _
        · exact List.forall_mem_singleton.mpr trivial
  · exact List.forall_mem_nil _

/-- The faults of a use are those of the entry that is used. -/
theorem entryFaults_of_entry {list : List MotionParameter} {parameter : MotionParameter} {i : Nat}
    (h : entryAt? list i = some parameter) : entryFaults list i = parameter.faults := by
  rw [entryFaults, h]

/-! ## Walks beside parameter lists -/

/-- What is past the end of the one list is not paired. -/
theorem zip_take_length (as : List α) (bs : List β) : as.zip (bs.take as.length) = as.zip bs := by
  have hlen : (as.zip bs).length ≤ as.length := by
    rw [List.length_zip]
    exact Nat.min_le_left ..
  calc as.zip (bs.take as.length)
      = (as.take as.length).zip (bs.take as.length) := by rw [List.take_length]
    _ = (as.zip bs).take as.length := List.take_zipWith.symm
    _ = as.zip bs := List.take_of_length_le hlen

namespace Compiler

/-- Items walked beside two parameter lists, which are extended to reach along them. -/
def walkBeside {γ : Type} (firstLabel : String) (firsts : List β) (secondLabel : String)
    (seconds : List γ) (items : List α)
    (emit : Nat → α × β × γ → Except Failure (Declaration × Instruction)) :
    Except Failure CompiledSet :=
  (broadcast firstLabel firsts items.length).bind fun firsts =>
    (broadcast secondLabel seconds items.length).bind fun seconds =>
      (emitFrom 0 emit (items.zip (firsts.zip seconds))).map CompiledSet.ofPairs

section

variable {γ : Type} {firstLabel secondLabel : String} {firsts : List β} {seconds : List γ}
  {items : List α} {emit : Nat → α × β × γ → Except Failure (Declaration × Instruction)}

/-- Both lists have to have an element; then the positions have their faults. -/
theorem failsFirst_walkBeside {faults : Nat → List Failure} (hitems : items.length ≠ 0)
    (hemit : ∀ i item x y, entryAt? firsts i = some x → entryAt? seconds i = some y →
      FailsFirst (emit i (item, x, y)) (faults i)) :
    FailsFirst (walkBeside firstLabel firsts secondLabel seconds items emit)
      (lackFaults firstLabel firsts ++ (lackFaults secondLabel seconds ++
        (List.range items.length).flatMap faults)) := by
  rw [List.range_eq_range']
  refine (failsFirst_broadcast firstLabel firsts hitems).bind fun firsts' hfirsts => ?_
  refine (failsFirst_broadcast secondLabel seconds hitems).bind fun seconds' hseconds => ?_
  rw [← length_zip_of_broadcast hfirsts hseconds]
  refine (failsFirst_emitFrom fun i item hitem => ?_).map CompiledSet.ofPairs
  obtain ⟨item, x, y⟩ := item
  obtain ⟨-, hx, hy⟩ := entries_of_zip hfirsts hseconds hitem
  rw [Nat.zero_add]
  exact hemit i item x y hx hy

/-- The entries past the last item do not count. -/
theorem walkBeside_take :
    walkBeside firstLabel (firsts.take items.length) secondLabel (seconds.take items.length) items
        emit =
      walkBeside firstLabel firsts secondLabel seconds items emit := by
  unfold walkBeside
  rw [broadcast_take, broadcast_take]
  cases broadcast firstLabel firsts items.length with
  | error e => rfl
  | ok firsts =>
      cases broadcast secondLabel seconds items.length with
      | error e => rfl
      | ok seconds =>
          have hzip : (firsts.take items.length).zip (seconds.take items.length) =
              (firsts.zip seconds).take items.length := List.take_zipWith.symm
          simp only [Except.map, Except.bind, hzip, zip_take_length]

end

/-! ## Moves -/

/-- The speed is resolved before the zone. -/
theorem resolvePair_eq (c : Compiler) (speed zone : MotionParameter) :
    c.resolvePair speed zone = (speed.resolve c.speeds).bind fun speed =>
      (zone.resolve c.zones).map fun zone => (speed, zone) := by
  unfold resolvePair
  cases speed.resolve c.speeds with
  | error e => rfl
  | ok symbol => cases zone.resolve c.zones <;> rfl

/-- A pair fails for its speed first, and then for its zone. -/
theorem failsFirst_resolvePair (c : Compiler) (speed zone : MotionParameter) :
    FailsFirst (c.resolvePair speed zone) (speed.faults ++ zone.faults) := by
  rw [resolvePair_eq]
  exact (speed.failsFirst_resolve c.speeds).bind fun symbol _ =>
    (zone.failsFirst_resolve c.zones).map fun zone => (symbol, zone)

/-- A move fails for its speed first, and then for its zone. -/
theorem failsFirst_emitMove (c : Compiler) (kind : MoveKind) (m : MoveList) (i : Nat)
    (target : Target) (speed zone : MotionParameter) :
    FailsFirst (c.emitMove kind m i (target, speed, zone)) (speed.faults ++ zone.faults) := by
  refine (c.failsFirst_resolvePair speed zone).congr (fun e he => ?_) fun symbols hsymbols => ?_
  · rw [emitMove, he]
  · exact ⟨_, by rw [emitMove, hsymbols]⟩

/-- An arc fails for its speed first, and then for its zone. -/
theorem failsFirst_emitArc (c : Compiler) (m : MoveList) (i : Nat) (arc : Pose × Pose)
    (speed zone : MotionParameter) :
    FailsFirst (c.emitArc m i (arc, speed, zone)) (speed.faults ++ zone.faults) := by
  refine (c.failsFirst_resolvePair speed zone).congr (fun e he => ?_) fun symbols hsymbols => ?_
  · rw [emitArc, he]
  · exact ⟨_, by rw [emitArc, hsymbols]⟩

/-- A move of an axis fails for its speed alone. -/
theorem failsFirst_emitAxisMove (c : Compiler) (unit set : String) (i : Nat) (angle : Binary64)
    (axis : UInt8) (speed : MotionParameter) :
    FailsFirst (c.emitAxisMove unit set i (angle, axis, speed)) speed.faults := by
  refine (speed.failsFirst_resolve c.speeds).congr (fun e he => ?_) fun symbol hsymbol => ?_
  · rw [emitAxisMove, he]
  · exact ⟨_, by rw [emitAxisMove, hsymbol]⟩

/-- Moves are emitted along two parameter lists. -/
theorem emitMoves_eq (points : List α) (m : MoveList)
    (emit : Nat → α × MotionParameter × MotionParameter →
      Except Failure (Declaration × Instruction)) :
    emitMoves points m emit = walkBeside "speed" m.speeds "zone" m.zones points emit := by
  unfold emitMoves walkBeside
  cases broadcast "speed" m.speeds points.length with
  | error e => rfl
  | ok speeds =>
      cases broadcast "zone" m.zones points.length with
      | error e => rfl
      | ok zones =>
          cases h : emitFrom 0 emit (points.zip (speeds.zip zones)) <;>
            simp [Except.bind, Except.map, h]

/-- A list of targets is checked before the first move is emitted. -/
theorem moves_eq (c : Compiler) (kind : MoveKind) (targets : List Target) (m : MoveList) :
    c.moves kind targets m = if targets.isEmpty then .error .emptyTargetList else
      (checkAll Target.validate targets).bind fun _ =>
        walkBeside "speed" m.speeds "zone" m.zones targets (c.emitMove kind m) := by
  rw [moves, ← emitMoves_eq]
  cases checkAll Target.validate targets <;> rfl

/-- Two lists of poses are compared and checked before the first arc is emitted. -/
theorem moveC_eq (c : Compiler) (via destinations : List Pose) (m : MoveList) :
    c.moveC via destinations m = if destinations.isEmpty then .error .emptyTargetList else
      if via.length ≠ destinations.length then
        .error (.mismatchedTargets via.length destinations.length)
      else (checkAll Pose.validate (via ++ destinations)).bind fun _ =>
        walkBeside "speed" m.speeds "zone" m.zones (via.zip destinations) (c.emitArc m) := by
  rw [moveC, ← emitMoves_eq]
  cases checkAll Pose.validate (via ++ destinations) <;> rfl

/-- Positions of an axis are emitted without a check of their own. -/
theorem indAMove_eq (c : Compiler) (unit : String) (axes : List UInt8) (positions : List Binary64)
    (speeds : List MotionParameter) (set : String) :
    c.indAMove unit axes positions speeds set =
      if positions.isEmpty then .error .emptyTargetList else
        walkBeside "axis" axes "speed" speeds positions (c.emitAxisMove unit set) := by
  unfold indAMove walkBeside
  cases broadcast "axis" axes positions.length with
  | error e => rfl
  | ok axes =>
      cases broadcast "speed" speeds positions.length with
      | error e => rfl
      | ok speeds =>
          cases h : emitFrom 0 (c.emitAxisMove unit set) (positions.zip (axes.zip speeds)) <;>
            simp [Except.bind, Except.map, h]

end Compiler

/-! ## Calls -/

/-- What is wrong with the parameters of some number of moves. -/
def MoveList.faults (m : MoveList) (n : Nat) : List Failure :=
  lackFaults "speed" m.speeds ++ (lackFaults "zone" m.zones ++
    (List.range n).flatMap fun i => entryFaults m.speeds i ++ entryFaults m.zones i)

/-- The parameters that some number of moves are paired with. -/
def MoveList.upTo (m : MoveList) (n : Nat) : MoveList :=
  { m with speeds := m.speeds.take n, zones := m.zones.take n }

namespace CompileCall

/-- The targets that a call checks, in order: all points of arcs before their ends. -/
def checked : CompileCall → List Target
  | .moveL targets _ | .moveJ targets _ => targets.map .cartesian
  | .moveAbsJ targets _ => targets.map .joint
  | .moveC via destinations _ => (via ++ destinations).map .cartesian
  | .indAMove .. => []

/-- Arcs have as many points as ends. -/
def pairFaults : CompileCall → List Failure
  | .moveC via destinations _ =>
      if via.length ≠ destinations.length then
        [.mismatchedTargets via.length destinations.length]
      else []
  | _ => []

/-- What is wrong with the parameters of a call. -/
def parameterFaults : CompileCall → List Failure
  | .moveL targets m | .moveJ targets m => m.faults targets.length
  | .moveAbsJ targets m => m.faults targets.length
  | .moveC _ destinations m => m.faults destinations.length
  | .indAMove _ axes positions speeds _ =>
      lackFaults "axis" axes ++ (lackFaults "speed" speeds ++
        (List.range positions.length).flatMap (entryFaults speeds))

/-- All that is wrong with a call, first things first. -/
def faults (call : CompileCall) : List Failure :=
  (if call.size = 0 then [.emptyTargetList] else []) ++ (call.pairFaults ++
    (call.checked.flatMap (fun target => faultsOf target.validate) ++ call.parameterFaults))

/-- A call with no more parameters than targets. -/
def trimmed : CompileCall → CompileCall
  | .moveL targets m => .moveL targets (m.upTo targets.length)
  | .moveJ targets m => .moveJ targets (m.upTo targets.length)
  | .moveAbsJ targets m => .moveAbsJ targets (m.upTo targets.length)
  | .moveC via destinations m => .moveC via destinations (m.upTo destinations.length)
  | .indAMove unit axes positions speeds set =>
      .indAMove unit (axes.take positions.length) positions (speeds.take positions.length) set

end CompileCall

namespace Compiler

/-- Moves fail for no targets, a target, an empty list and a level, in this order. -/
theorem failsFirst_moves (c : Compiler) (kind : MoveKind) (targets : List Target) (m : MoveList) :
    FailsFirst (c.moves kind targets m)
      ((if targets.length = 0 then [.emptyTargetList] else []) ++
        (targets.flatMap (fun target => faultsOf target.validate) ++ m.faults targets.length)) := by
  rw [moves_eq]
  refine .guard List.isEmpty_iff_length_eq_zero fun htargets => ?_
  refine (failsFirst_checkAll Target.validate targets).bind fun _ _ => ?_
  refine failsFirst_walkBeside htargets fun i target speed zone hspeed hzone => ?_
  rw [entryFaults_of_entry hspeed, entryFaults_of_entry hzone]
  exact c.failsFirst_emitMove kind m i target speed zone

/-- Arcs fail for no destinations, their number, a pose, an empty list and a level. -/
theorem failsFirst_moveC (c : Compiler) (via destinations : List Pose) (m : MoveList) :
    FailsFirst (c.moveC via destinations m) (CompileCall.moveC via destinations m).faults := by
  rw [moveC_eq]
  refine .guard List.isEmpty_iff_length_eq_zero fun hdestinations => ?_
  rw [CompileCall.pairFaults]
  refine .guard Iff.rfl fun hpaired => ?_
  have hlen : (via.zip destinations).length = destinations.length := by
    rw [List.length_zip, Decidable.not_not.mp hpaired, Nat.min_self]
  rw [CompileCall.checked, List.flatMap_map, CompileCall.parameterFaults, ← hlen]
  refine (failsFirst_checkAll Pose.validate (via ++ destinations)).bind fun _ _ => ?_
  refine failsFirst_walkBeside (hlen ▸ hdestinations) fun i arc speed zone hspeed hzone => ?_
  rw [entryFaults_of_entry hspeed, entryFaults_of_entry hzone]
  exact c.failsFirst_emitArc m i arc speed zone

/-- Moves of an axis fail for no positions, an empty list and a level. -/
theorem failsFirst_indAMove (c : Compiler) (unit : String) (axes : List UInt8)
    (positions : List Binary64) (speeds : List MotionParameter) (set : String) :
    FailsFirst (c.indAMove unit axes positions speeds set)
      (CompileCall.indAMove unit axes positions speeds set).faults := by
  rw [indAMove_eq]
  refine .guard List.isEmpty_iff_length_eq_zero fun hpositions => ?_
  refine failsFirst_walkBeside hpositions fun i angle axis speed _ hspeed => ?_
  rw [entryFaults_of_entry hspeed]
  exact c.failsFirst_emitAxisMove unit set i angle axis speed

end Compiler

namespace CompileCall

/-- Every call fails for the first of its faults. -/
theorem failsFirst_run (c : Compiler) (call : CompileCall) :
    FailsFirst (call.run c) call.faults := by
  cases call with
  | moveL targets m =>
      have h := c.failsFirst_moves .moveL (targets.map .cartesian) m
      rwa [List.length_map] at h
  | moveJ targets m =>
      have h := c.failsFirst_moves .moveJ (targets.map .cartesian) m
      rwa [List.length_map] at h
  | moveAbsJ targets m =>
      have h := c.failsFirst_moves .moveAbsJ (targets.map .joint) m
      rwa [List.length_map] at h
  | moveC via destinations m => exact c.failsFirst_moveC via destinations m
  | indAMove unit axes positions speeds set =>
      exact c.failsFirst_indAMove unit axes positions speeds set

/-- A target that does not pass is an invalid pose. -/
theorem fromCompiler_faultsOf_validate (target : Target) :
    ∀ e ∈ faultsOf target.validate, e.FromCompiler := by
  rcases target.validate_cases with h | ⟨defect, h⟩
  · rw [h]
    exact List.forall_mem_nil _
  · rw [h]
    exact List.forall_mem_singleton.mpr trivial

/-- The faults of the parameters of moves are faults of the compiler. -/
theorem fromCompiler_moveFaults (m : MoveList) (n : Nat) :
    ∀ e ∈ m.faults n, e.FromCompiler := by
  simp only [MoveList.faults, List.forall_mem_append, List.forall_mem_flatMap]
  exact ⟨fromCompiler_lackFaults "speed" m.speeds, fromCompiler_lackFaults "zone" m.zones,
    fun i _ => ⟨fromCompiler_entryFaults m.speeds i, fromCompiler_entryFaults m.zones i⟩⟩

/-- No catalog is to blame. -/
theorem fromCompiler_faults (call : CompileCall) : ∀ e ∈ call.faults, e.FromCompiler := by
  simp only [faults, List.forall_mem_append, List.forall_mem_flatMap]
  refine ⟨?_, ?_, fun target _ => fromCompiler_faultsOf_validate target, ?_⟩
  · split
    · exact List.forall_mem_singleton.mpr trivial
    · exact List.forall_mem_nil _
  · unfold pairFaults
    split
    · split
      · exact List.forall_mem_singleton.mpr trivial
      · exact List.forall_mem_nil _
    · exact List.forall_mem_nil _
  · cases call with
    | moveL targets m | moveJ targets m | moveAbsJ targets m =>
        exact fromCompiler_moveFaults m targets.length
    | moveC via destinations m => exact fromCompiler_moveFaults m destinations.length
    | indAMove unit axes positions speeds set =>
        simp only [parameterFaults, List.forall_mem_append, List.forall_mem_flatMap]
        exact ⟨fromCompiler_lackFaults "axis" axes, fromCompiler_lackFaults "speed" speeds,
          fun i _ => fromCompiler_entryFaults speeds i⟩

end CompileCall

/-! ## Surplus parameters -/

namespace Compiler

/-- Parameters past the number of targets do not matter. -/
theorem moves_upTo (c : Compiler) (kind : MoveKind) (targets : List Target) (m : MoveList) :
    c.moves kind targets (m.upTo targets.length) = c.moves kind targets m := by
  have hemit : c.emitMove kind (m.upTo targets.length) = c.emitMove kind m := rfl
  rw [moves_eq, moves_eq, hemit, MoveList.upTo, walkBeside_take]

/-- Parameters past the number of destinations do not matter. -/
theorem moveC_upTo (c : Compiler) (via destinations : List Pose) (m : MoveList) :
    c.moveC via destinations (m.upTo destinations.length) = c.moveC via destinations m := by
  have hemit : c.emitArc (m.upTo destinations.length) = c.emitArc m := rfl
  rw [moveC_eq, moveC_eq, hemit, MoveList.upTo]
  by_cases hpaired : via.length = destinations.length
  · have hlen : (via.zip destinations).length = destinations.length := by
      rw [List.length_zip, hpaired, Nat.min_self]
    rw [← hlen, walkBeside_take]
  · rw [if_pos hpaired, if_pos hpaired]

end Compiler

/-- The parameters past the last target do not count. -/
theorem CompileCall.run_trimmed (c : Compiler) (call : CompileCall) :
    call.trimmed.run c = call.run c := by
  cases call with
  | moveL targets m =>
      have h := c.moves_upTo .moveL (targets.map .cartesian) m
      rwa [List.length_map] at h
  | moveJ targets m =>
      have h := c.moves_upTo .moveJ (targets.map .cartesian) m
      rwa [List.length_map] at h
  | moveAbsJ targets m =>
      have h := c.moves_upTo .moveAbsJ (targets.map .joint) m
      rwa [List.length_map] at h
  | moveC via destinations m => exact c.moveC_upTo via destinations m
  | indAMove unit axes positions speeds set =>
      rw [trimmed, run, run, Compiler.indAMove_eq, Compiler.indAMove_eq, Compiler.walkBeside_take]

/-- **When and how a call fails.** It fails with the first of its faults and succeeds when it has
none, and the parameters past the last target do not count.  No catalog is to blame, and a target
that does not pass its check is an invalid pose. -/
theorem compile_fails_first (c : Compiler) (call : CompileCall) :
    FailsFirst (call.run c) call.faults ∧ call.trimmed.run c = call.run c ∧
      (∀ defect, call.run c ≠ .error (.invalidCatalog defect)) ∧
      ∀ target : Target, target.validate = .ok () ∨
        ∃ defect, target.validate = .error (.invalidPose defect) := by
  have hfails := call.failsFirst_run c
  refine ⟨hfails, call.run_trimmed c, fun defect herror => ?_, Target.validate_cases⟩
  exact call.fromCompiler_faults _ (hfails.mem_of_error herror)

/-- The speed of a position comes before its zone, and the third zone is not used. -/
example : CompileCall.faults
    (.moveAbsJ [⟨Vector.replicate 6 0, .unused⟩, ⟨Vector.replicate 6 1, .unused⟩]
      ⟨"p", [.symbol "v100", .level (.infinite true)], [.symbol "fine", .level .nan, .level .nan],
        {}⟩) = [.invalidLevel (.infinite true), .invalidLevel .nan] := by
  decide +kernel

end RobotCell
