import RobotCell.Proofs.Files
import RobotCell.Proofs.Program.Reading
import RobotCell.Proofs.Workflow.Cleanup
import RobotCell.Proofs.Workflow.Simulated

/-!
# RobotCell.Proofs.Workflow.Deploy

A program that is deployed is read back.

A program that was sent leaves its module as the only one on the controller
(`Workflow.sendProgram_leaves`), and sending it succeeds on a controller that is ready for it
(`Workflow.perform_sendProgram`).  A reading of that module is a reading of its items, and these are
the data of the parts that the program was assembled from (`deployed_program_reads_back`).
-/

namespace RobotCell

open Session

/-! ## Deploying -/

namespace Workflow

variable {workspace : Files} {p : ProgramFiles} {handle : ControllerHandle}
  {s s' : Session} {sim sim' : Simulator}

/-- A program that was sent leaves the module in its file as the only one, on a controller that the
same session can log on to again. -/
theorem sendProgram_leaves
    (h : Simulator.perform workspace (sendProgram workspace handle p) s sim =
      ((.ok (), s'), sim')) :
    (∃ text m, workspace.readAny p.module = .ok text ∧ LoadedModule.scan text = .ok m ∧
        sim'.modules = [m]) ∧
      sim'.reachable = true ∧ s'.user = sim'.credentials ∧ s'.state = .disconnected := by
  let o : Order Unit := .sendProgram workspace p
  obtain ⟨events, hpath, hanswered⟩ := Dialogue.exists_path_of_run h
  have hrun : Runs (o.run handle) s events (.ok (), s') := hpath
  have haccepted : ¬((o.checks.findSome? id).isSome = true ∨ s.state ≠ .disconnected) := by
    intro hrefused
    obtain ⟨-, hout⟩ := Order.refused_of_runs hrun hrefused
    cases hout
  rw [not_or, Bool.not_eq_true, Option.isSome_eq_false_iff, Option.isNone_iff_eq_none,
    Decidable.not_not] at haccepted
  obtain ⟨hchecks, hstate⟩ := haccepted
  obtain ⟨hsession, hconducts⟩ := Order.conducts_of_disconnected hstate hchecks hrun
  have hkeptSession : s'.user = s.user ∧ s'.state = .disconnected := by
    rcases hsession with rfl | rfl
    · exact ⟨rfl, hstate⟩
    · exact ⟨rfl, rfl⟩
  generalize hout : failure? (.ok () : Except Failure Unit) = outcome at hconducts
  cases hconducts with
  | logonFails | requestFails => contradiction
  | read hreads => contradiction
  | @write middle failure _ hwork a b =>
      obtain ⟨rfl, -⟩ := Option.or_eq_none_iff.mp hout.symm
      obtain ⟨sim₁, hlogon, hafter⟩ := hanswered.of_call
      obtain ⟨hreachable, huser, -⟩ := Simulator.respond_logon hlogon
      have haccess : Simulator.SameAccess sim sim' := Simulator.sameAccess_of_answered hanswered
      obtain ⟨sim₂, -, hscope⟩ := hafter.of_call
      obtain ⟨sim₃, hmiddle, hback⟩ := hscope.of_append
      obtain ⟨text, m, htext, hscan, hmodules⟩ :=
        Simulator.modules_of_work (⟨Empty, middle, hwork, hmiddle⟩ :
          Simulator.GoesThrough workspace sim₂ (o.work s.task) none sim₃)
      have hkept : sim'.modules = sim₃.modules := by
        refine Simulator.modules_of_answered hback fun c answer hmem => ?_
        rcases List.mem_cons.mp hmem with heq | hmem
        · cases heq
          rfl
        · cases List.mem_singleton.mp hmem
          rfl
      exact ⟨⟨text, m, htext, hscan, hkept.trans hmodules⟩, haccess.reachable.trans hreachable,
        hkeptSession.1.trans (huser.trans haccess.credentials.symm), hkeptSession.2⟩

/-- The controller after a program was sent to it by a client that gave everything back. -/
def deployed (sim : Simulator) (file descriptor file' text : String) (m : LoadedModule) :
    Simulator :=
  { sim.withProgram file descriptor file' text m with
    loggedOn := false
    mastership := false
    grants := sim.grants + 1 }

/-- No call of a program that is sent fails when its files are in place and the controller is
ready for it, and the program is on the controller then. -/
theorem deployed_of_conducts {descriptor text file file' : String} {m : LoadedModule} {ν : Type}
    {events : List (Event ν)} {failure : Option Failure} (hready : sim.Ready s.user)
    (hprogram : fileName? p.program = some file) (hmodule : fileName? p.module = some file')
    (hdescriptor : workspace.readAny p.program = .ok descriptor)
    (htext : workspace.readAny p.module = .ok text) (hscan : LoadedModule.scan text = .ok m)
    (hconducts : (Order.sendProgram workspace p).Conducts handle s events failure)
    (hanswered : Dialogue.Answered (Simulator.respond workspace) sim events sim') :
    failure = none ∧ sim' = deployed sim file descriptor file' text m := by
  let entered : Simulator := { sim with loggedOn := true }
  let held : Simulator := { entered with mastership := true, grants := sim.grants + 1 }
  have hlogon : Simulator.respond workspace (.logon handle s.user) sim = (.ok (), entered) := by
    simp [Simulator.respond, Simulator.logon, hready.reachable, hready.user, entered]
  have hrequest : Simulator.respond workspace .requestMastership entered = (.ok (), held) := by
    simp [Simulator.respond, Simulator.requestMastership, Simulator.requireLoggedOn,
      hready.mastership, entered, held]
  have hheld : held.Held := ⟨rfl, rfl, hready.mode, hready.load, hready.release⟩
  cases hconducts with
  | logonFails e =>
      obtain ⟨_, heq, -⟩ := hanswered.of_call
      rw [hlogon] at heq
      cases heq
  | read hreads => contradiction
  | requestFails _ e b =>
      obtain ⟨_, heq, hafter⟩ := hanswered.of_call
      rw [hlogon] at heq
      cases heq
      obtain ⟨_, heq', -⟩ := hafter.of_call
      rw [hrequest] at heq'
      cases heq'
  | @write middle failure _ hwork a b =>
      obtain ⟨_, heq, hafter⟩ := hanswered.of_call
      rw [hlogon] at heq
      cases heq
      obtain ⟨_, heq', hscope⟩ := hafter.of_call
      rw [hrequest] at heq'
      cases heq'
      obtain ⟨sim₃, hmiddle, hback⟩ := hscope.of_append
      obtain ⟨rfl, rfl⟩ := hheld.work hprogram hmodule hdescriptor htext hscan
        ⟨ν, middle, hwork, hmiddle⟩
      let worked : Simulator := held.withProgram file descriptor file' text m
      have hrelease : Simulator.respond workspace .releaseMastership worked =
          (.ok (), { worked with mastership := false }) := by
        simp [Simulator.respond, Simulator.releaseMastership, worked, Simulator.withProgram, held,
          entered, hready.release]
      obtain ⟨_, hreleased, hleft⟩ := hback.of_call
      rw [hrelease] at hreleased
      cases hreleased
      obtain ⟨_, hloggedOff, hend⟩ := hleft.of_call
      cases hloggedOff
      cases hend
      exact ⟨rfl, rfl⟩

/-- **A program with its files in place is deployed** to a controller that is ready for it. -/
theorem perform_sendProgram {descriptor text file file' : String} {m : LoadedModule}
    (hstate : s.state = .disconnected) (hready : sim.Ready s.user)
    (hprogram : fileName? p.program = some file) (hmodule : fileName? p.module = some file')
    (hdescriptor : workspace.readAny p.program = .ok descriptor)
    (htext : workspace.readAny p.module = .ok text) (hscan : LoadedModule.scan text = .ok m) :
    ∃ s', Simulator.perform workspace (sendProgram workspace handle p) s sim =
      ((.ok (), s'), deployed sim file descriptor file' text m) ∧ s'.state = .disconnected ∧
      s'.user = s.user := by
  let o : Order Unit := .sendProgram workspace p
  obtain ⟨⟨result, s'⟩, sim', hout⟩ : ∃ out sim',
      Simulator.perform workspace (sendProgram workspace handle p) s sim = (out, sim') :=
    ⟨_, _, rfl⟩
  obtain ⟨events, hpath, hanswered⟩ := Dialogue.exists_path_of_run hout
  have hrun : Runs (o.run handle) s events (result, s') := hpath
  have hchecks : o.checks.findSome? id = none := by
    simp only [o, Order.checks, Files.require_of_readAny hdescriptor,
      Files.require_of_readAny htext]
    rfl
  obtain ⟨hsession, hconducts⟩ := Order.conducts_of_disconnected hstate hchecks hrun
  obtain ⟨hnone, rfl⟩ :=
    deployed_of_conducts hready hprogram hmodule hdescriptor htext hscan hconducts hanswered
  have hkept : s'.state = .disconnected ∧ s'.user = s.user := by
    rcases hsession with rfl | rfl
    · exact ⟨hstate, rfl⟩
    · exact ⟨rfl, rfl⟩
  cases result with
  | error e => cases hnone
  | ok _ => exact ⟨s', hout, hkept⟩

/-! ## Reading -/

variable {α : Type} {body : SessionM (Dialogue Empty) α} {f : List DataItem → Except Failure α}

theorem perform_logon (hstate : s.state = .disconnected) (hreachable : sim.reachable = true)
    (huser : s.user = sim.credentials) :
    Simulator.perform workspace (logon handle) s sim =
      ((.ok (), s.loggedOnTo handle), { sim with loggedOn := true }) := by
  have hcall : Simulator.respond workspace (.logon handle s.user) sim =
      (.ok (), { sim with loggedOn := true }) := by
    simp [Simulator.respond, Simulator.logon, hreachable, huser]
  unfold Simulator.perform logon inState
  rw [if_pos hstate, Dialogue.run_bind, Dialogue.run_call, hcall]
  rfl

/-- The result of a scope that can log on is that of its body. -/
theorem perform_withLogon (hstate : s.state = .disconnected) (hreachable : sim.reachable = true)
    (huser : s.user = sim.credentials) :
    (Simulator.perform workspace (withLogon handle body) s sim).1.1 =
      (Simulator.perform workspace body (s.loggedOnTo handle) { sim with loggedOn := true }).1.1 := by
  have hlogon : Dialogue.run (Simulator.respond workspace)
      ((logon handle : SessionM (Dialogue Empty) Unit) s) sim =
        ((.ok (), s.loggedOnTo handle), { sim with loggedOn := true }) :=
    perform_logon hstate hreachable huser
  unfold Simulator.perform
  unfold withLogon
  rw [Dialogue.run_bind, hlogon]
  simp only [Dialogue.run_bind]
  rfl

/-- A reading of the one loaded module is a reading of its items. -/
theorem perform_readItems {m : LoadedModule} (hstate : s.state = .disconnected)
    (hreachable : sim.reachable = true) (huser : s.user = sim.credentials)
    (hmodules : sim.modules = [m]) :
    (Simulator.perform workspace (Workflow.readItems handle m.name f) s sim).1.1 = f m.items := by
  let entered : Simulator := { sim with loggedOn := true }
  have hcall : Simulator.respond workspace (.searchData s.task m.name) entered =
      (.ok m.items, entered) := by
    simp [Simulator.respond, Simulator.reading, Simulator.requireLoggedOn, Simulator.module?,
      hmodules, Except.map, entered]
  have hsearch : Dialogue.run (Simulator.respond workspace)
      ((searchData m.name : SessionM (Dialogue Empty) _) (s.loggedOnTo handle)) entered =
        ((.ok m.items, s.loggedOnTo handle), entered) := by
    show Dialogue.run _ (Transport.call (.searchData s.task m.name) >>=
      fun answer => pure (answer, s.loggedOnTo handle)) _ = _
    rw [Dialogue.run_bind, Dialogue.run_call, hcall]
    rfl
  unfold Workflow.readItems
  rw [perform_withLogon hstate hreachable huser]
  show (Dialogue.run _ (searchData m.name (s.loggedOnTo handle) >>= fun first =>
    (ExceptT.bindCont _ first.1 : StateT Session (Dialogue Empty) _) first.2) entered).1.1 = _
  rw [Dialogue.run_bind, hsearch]
  simp only [ExceptT.bindCont]
  cases f m.items with
  | error e => rfl
  | ok a => rfl

end Workflow

/-! ## The result -/

/-- **A deployed program reads back**: whatever it is assembled from, once its module is stored and
the program sent, a reading of the module gives the targets of its calls in order, and its tools and
then its work objects in order, each under its name.  Numbers come back exactly, but for the signs
of zeros, and an external axis at or above the mark of those not in use is read as not in use. -/
theorem deployed_program_reads_back {parts : List ProgramPart} {m : ProgramModule}
    {p : ProgramFiles} {files stored workspace : Files} {handle handle' : ControllerHandle}
    {s s' : Session} {sim sim' : Simulator} (hparts : ∀ part ∈ parts, part.Scannable)
    (hassemble : ProgramPart.assemble parts = .ok m)
    (hnames : fileName? p.program ≠ fileName? p.module)
    (hstore : p.write m.render files = (.ok (), stored))
    (hsend : Simulator.perform stored (Workflow.sendProgram stored handle p) s sim =
      ((.ok (), s'), sim')) :
    (Simulator.perform workspace (Workflow.readTargetData handle' moduleName) s' sim').1.1 = .ok {
      robtargets := (parts.flatMap ProgramPart.declarations).filterMap ProgramDatum.robtarget?
      jointtargets := (parts.flatMap ProgramPart.declarations).filterMap ProgramDatum.jointtarget? } ∧
    (Simulator.perform workspace (Workflow.readProgramData handle' moduleName) s' sim').1.1 =
      .ok ((parts.flatMap ProgramPart.tools ++ parts.flatMap ProgramPart.wobjs).filterMap
        ProgramDatum.entry?) := by
  obtain ⟨⟨text, loaded, htext, hscan, hmodules⟩, hreachable, huser, hstate⟩ :=
    Workflow.sendProgram_leaves hsend
  obtain ⟨_, _, -, -, -, hmodule⟩ := ProgramFiles.readAny_of_write hnames hstore
  obtain rfl : m.render = text := Except.ok.inj (hmodule.symm.trans htext)
  obtain rfl := Except.ok.inj ((ProgramPart.scan_assembled hparts hassemble).symm.trans hscan)
  exact ⟨(Workflow.perform_readItems hstate hreachable huser hmodules).trans
      (ProgramPart.ofItems_data parts),
    (Workflow.perform_readItems hstate hreachable huser hmodules).trans
      (ProgramPart.programData_data parts)⟩

/-- Two files of a program in the working directory. -/
theorem ProgramFiles.exists_write (text : String) :
    ∃ stored, (⟨"p", "m"⟩ : ProgramFiles).write text {} = (.ok (), stored) ∧
      fileName? "p" = some "p" ∧ fileName? "m" = some "m" := by
  have hpSteps : pathSteps "p" = [] ++ ["p"] := by
    unfold pathSteps String.splitOn
    rw [String.splitOnAux, String.splitOnAux]
    rfl
  have hmSteps : pathSteps "m" = [] ++ ["m"] := by
    unfold pathSteps String.splitOn
    rw [String.splitOnAux, String.splitOnAux]
    rfl
  have hp : fileName? "p" = some "p" := Files.fileName?_of_steps hpSteps (by decide) (by decide)
  have hm : fileName? "m" = some "m" := Files.fileName?_of_steps hmSteps (by decide) (by decide)
  have hwrite (text descriptor : String) :
      Files.write {} "m" text = .ok { nodes := [(["m"], .text text)] } ∧
        Files.write { nodes := [(["m"], .text text)] } "p" descriptor =
          .ok { nodes := [(["p"], .text descriptor), (["m"], .text text)] } := by
    have hstart (files : Files) (path : String) (h : files.working = []) :
        files.walk (files.start path) [] = .ok [] := congrArg Except.ok (Files.start_of_root h path)
    constructor
    · exact Files.Writes.write_eq ⟨by decide +kernel, by decide, by decide, by decide,
        ⟨[], hmSteps, hstart _ _ rfl⟩, rfl, (fun h => by cases h), rfl⟩
    · exact Files.Writes.write_eq ⟨by decide +kernel, by decide, by decide, by decide,
        ⟨[], hpSteps, hstart _ _ rfl⟩, rfl, (fun h => by cases h), rfl⟩
  obtain ⟨hmodule, hprogram⟩ := hwrite text (programDescriptor ["m"])
  refine ⟨{ nodes := [(["p"], .text (programDescriptor ["m"])), (["m"], .text text)] },
    ?_, hp, hm⟩
  simp only [ProgramFiles.write, hm, hmodule, hprogram]

/-- An arc, a tool and a joint target, deployed to a new controller. -/
theorem deployed_program_reads_back_arc :
    ∃ parts m stored s' sim', ProgramPart.assemble parts = .ok m ∧
      (⟨"p", "m"⟩ : ProgramFiles).write m.render {} = (.ok (), stored) ∧
      Simulator.perform stored (Workflow.sendProgram stored Simulator.handle ⟨"p", "m"⟩) {} {} =
        ((.ok (), s'), sim') ∧
      (Simulator.perform stored (Workflow.readTargetData Simulator.handle moduleName) s' sim').1.1 =
        .ok ⟨[("cirarc0", originFrame), ("toarc0", originFrame)],
          [("home0", ⟨Vector.replicate 6 0, .unused⟩)]⟩ ∧
      (Simulator.perform stored (Workflow.readProgramData Simulator.handle moduleName) s' sim').1.1 =
        .ok [⟨"tooldata", "grip", .tooldata ⟨true, originFrame, toolLoad 1⟩⟩] := by
  let arc : CompileCall := .moveC [originFrame] [originFrame]
    ⟨"arc", [.symbol "v100"], [.symbol "fine"], {}⟩
  let home : CompileCall := .moveAbsJ [⟨Vector.replicate 6 0, .unused⟩]
    ⟨"home", [.symbol "v100"], [.symbol "fine"], {}⟩
  let parts : List ProgramPart :=
    [.compiled {} arc, .tool "grip" originFrame 1, .compiled {} home]
  have hparts : ∀ part ∈ parts, part.Scannable := by decide +kernel
  obtain ⟨m, hassemble⟩ : ∃ m, ProgramPart.assemble parts = .ok m := by
    have hsome : (ProgramPart.assemble parts).toOption.isSome = true := by decide +kernel
    cases hrun : ProgramPart.assemble parts with
    | error e => simp [hrun, Except.toOption] at hsome
    | ok m => exact ⟨m, rfl⟩
  obtain ⟨stored, hstore, hp, hm⟩ := ProgramFiles.exists_write m.render
  have hnames : fileName? "p" ≠ fileName? "m" := by
    rw [hp, hm]
    decide
  obtain ⟨s', sim', hsend⟩ : ∃ s' sim', Simulator.perform stored
      (Workflow.sendProgram stored Simulator.handle ⟨"p", "m"⟩) {} {} = ((.ok (), s'), sim') := by
    obtain ⟨_, _, -, -, hdescriptor, htext⟩ := ProgramFiles.readAny_of_write hnames hstore
    have hready : Simulator.Ready {} ({} : Session).user := ⟨rfl, rfl, rfl, rfl, rfl, rfl⟩
    obtain ⟨s', hsend, -⟩ := Workflow.perform_sendProgram rfl hready hp hm hdescriptor htext
      (ProgramPart.scan_assembled hparts hassemble)
    exact ⟨s', _, hsend⟩
  obtain ⟨htargets, hdata⟩ := deployed_program_reads_back
    hparts hassemble hnames hstore hsend
  exact ⟨parts, m, stored, s', sim', hassemble, hstore, hsend,
    htargets.trans (congrArg Except.ok (by decide +kernel)),
    hdata.trans (congrArg Except.ok (by decide +kernel))⟩

end RobotCell
