import RobotCell.Controller.Workflow
import RobotCell.Proofs.Controller.Rendering
import RobotCell.Proofs.Program.Assembly

/-!
# RobotCell.Proofs.Program.Reading

The data of a program as they are read from its items.

The targets, tools and work objects are picked by their types, and each is the value that its
literal reads back as (`ProgramPart.ofItems_data`, `ProgramPart.programData_data`).
-/

namespace RobotCell

/-! ## Data -/

namespace ProgramDatum

open Workflow (TargetData ProgramDataEntry programData)

/-- The Cartesian target that a datum is read as. -/
def robtarget? : ProgramDatum → Option (String × Pose)
  | .target name (.cartesian p) => some (name, p.asWritten)
  | _ => none

/-- The joint target that a datum is read as. -/
def jointtarget? : ProgramDatum → Option (String × JointPose)
  | .target name (.joint p) => some (name, p.asWritten)
  | _ => none

/-- The tool or work object that a datum is read as. -/
def entry? : ProgramDatum → Option ProgramDataEntry
  | .tool name frame mass =>
    some ⟨"tooldata", name, .tooldata ⟨true, frame.frameAsWritten, (toolLoad mass).asWritten⟩⟩
  | .wobj name frame =>
    some ⟨"wobjdata", name, .wobjdata ⟨false, true, "", frame.frameAsWritten,
      originFrame.frameAsWritten⟩⟩
  | _ => none

/-- The targets among data are read, in their order. -/
theorem ofItems_map_item (ds : List ProgramDatum) :
    TargetData.ofItems (ds.map item) = .ok ⟨ds.filterMap robtarget?, ds.filterMap jointtarget?⟩ := by
  induction ds with
  | nil => rfl
  | cons d ds ih =>
      rw [List.map_cons]
      cases d with
      | target name t =>
          rw [TargetData.ofItems, ih]
          cases t with
          | cartesian p =>
              have hread : Pose.parse (item (.target name (.cartesian p))).value = .ok p.asWritten :=
                p.parse_literal
              rw [hread]
              rfl
          | joint p =>
              have hread : JointPose.parse (item (.target name (.joint p))).value =
                  .ok p.asWritten := p.parse_literal
              rw [hread]
              rfl
      | tool | wobj | angle => exact ih

/-- The tools and work objects among data are read, in their order. -/
theorem programData_map_item (ds : List ProgramDatum) :
    programData (ds.map item) = .ok (ds.filterMap entry?) := by
  induction ds with
  | nil => rfl
  | cons d ds ih =>
      rw [List.map_cons, programData, ih]
      cases d with
      | target name t => cases t <;> rfl
      | angle name x => rfl
      | tool name frame mass =>
          have hread : DataValue.parseAs (item (.tool name frame mass)).dataType
              (item (.tool name frame mass)).value =
                .ok (.tooldata ⟨true, frame.frameAsWritten, (toolLoad mass).asWritten⟩) :=
            DataValue.parseAs_of_parse rfl (ToolData.parse_literal ⟨true, frame, toolLoad mass⟩)
          rw [hread]
          rfl
      | wobj name frame =>
          have hread : DataValue.parseAs (item (.wobj name frame)).dataType
              (item (.wobj name frame)).value = .ok (.wobjdata ⟨false, true, "",
                frame.frameAsWritten, originFrame.frameAsWritten⟩) :=
            DataValue.parseAs_of_parse rfl
              (@WobjData.parse_literal ⟨false, true, "", frame, originFrame⟩ (by simp))
          rw [hread]
          rfl

end ProgramDatum

namespace ProgramPart

/-- Tools and work objects are no targets. -/
theorem targets_eq_none {part : ProgramPart} {d : ProgramDatum} (h : d ∈ part.tools ++ part.wobjs) :
    d.robtarget? = none ∧ d.jointtarget? = none := by
  cases part with
  | compiled => simp [tools, wobjs] at h
  | tool | wobj =>
      obtain rfl := List.mem_singleton.mp h
      exact ⟨rfl, rfl⟩

/-- The data of calls are no tools or work objects. -/
theorem entry?_eq_none {part : ProgramPart} {d : ProgramDatum} (h : d ∈ part.declarations) :
    d.entry? = none := by
  cases part with
  | tool | wobj => simp [declarations] at h
  | compiled c call =>
      cases call with
      | moveL | moveJ | moveAbsJ =>
          obtain ⟨i, hi, rfl⟩ := List.mem_mapIdx.mp h
          rfl
      | moveC =>
          obtain ⟨ds, hds, hd⟩ := List.mem_flatten.mp h
          obtain ⟨i, hi, rfl⟩ := List.mem_mapIdx.mp hds
          simp only [List.mem_cons, List.not_mem_nil, or_false] at hd
          rcases hd with rfl | rfl <;> rfl
      | indAMove =>
          obtain ⟨i, hi, rfl⟩ := List.mem_mapIdx.mp h
          rfl

/-- The items of an assembled module are read as the targets of its calls. -/
theorem ofItems_data (parts : List ProgramPart) :
    Workflow.TargetData.ofItems ((data parts).map ProgramDatum.item) = .ok {
      robtargets := (parts.flatMap declarations).filterMap ProgramDatum.robtarget?
      jointtargets := (parts.flatMap declarations).filterMap ProgramDatum.jointtarget? } := by
  have hnone : ∀ d ∈ parts.flatMap tools ++ parts.flatMap wobjs,
      d.robtarget? = none ∧ d.jointtarget? = none := by
    intro d hd
    rcases List.mem_append.mp hd with h | h
    · obtain ⟨part, _, hpart⟩ := List.mem_flatMap.mp h
      exact targets_eq_none (List.mem_append_left _ hpart)
    · obtain ⟨part, _, hpart⟩ := List.mem_flatMap.mp h
      exact targets_eq_none (List.mem_append_right _ hpart)
  have hskip {β : Type} (f : ProgramDatum → Option β)
      (hf : ∀ d ∈ parts.flatMap tools ++ parts.flatMap wobjs, f d = none) :
      (data parts).filterMap f = (parts.flatMap declarations).filterMap f := by
    rw [data, List.filterMap_append, List.filterMap_eq_nil_iff.mpr hf, List.nil_append]
  rw [ProgramDatum.ofItems_map_item, hskip _ fun d hd => (hnone d hd).1,
    hskip _ fun d hd => (hnone d hd).2]

/-- The items of an assembled module are read as its tools and work objects. -/
theorem programData_data (parts : List ProgramPart) :
    Workflow.programData ((data parts).map ProgramDatum.item) =
      .ok ((parts.flatMap tools ++ parts.flatMap wobjs).filterMap ProgramDatum.entry?) := by
  have hnone : ∀ d ∈ parts.flatMap declarations, d.entry? = none := by
    intro d hd
    obtain ⟨part, _, hpart⟩ := List.mem_flatMap.mp hd
    exact entry?_eq_none hpart
  rw [ProgramDatum.programData_map_item, data, List.filterMap_append,
    List.filterMap_eq_nil_iff.mpr hnone, List.append_nil]

end ProgramPart

end RobotCell
