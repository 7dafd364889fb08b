import RobotCell.Proofs.Workflow.Deploy

/-!
# RobotCell.Proofs.Workflow.Redeploy

A program that is deployed takes the place of everything before it.

What a controller holds after a deployment is read off the files that were sent
(`deploy_determines_controller`): of the state before, only the other stored files and the settings
are left.  Sending the same files again finds them stored already (`Stores`), and so changes
nothing.
-/

namespace RobotCell

open Session

namespace Simulator

/-! ## Stored files -/

variable {files : List (String × String)} {name other content : String}

/-- A file is stored, and nothing else under its name. -/
structure Stores (files : List (String × String)) (name content : String) : Prop where
  there : (List.lookup name files).isSome = true
  only : ∀ entry ∈ files, entry.1 = name → entry.2 = content

theorem lookup_storeFile_of_ne (h : other ≠ name) (files : List (String × String))
    (content : String) : List.lookup other (storeFile files name content) = List.lookup other files := by
  have hne : (other == name) = false := by simpa using h
  unfold storeFile
  split
  · -- the entries of the file are changed in their places
    clear * - hne
    simp only [beq_iff_eq]
    induction files with
    | nil => rfl
    | cons entry files ih =>
        obtain ⟨key, old⟩ := entry
        by_cases hkey : key = name
        · simp [hkey, List.lookup_cons, hne, ih]
        · simp [hkey, List.lookup_cons, ih]
  · clear * - hne
    induction files with
    | nil => simp [hne]
    | cons entry files ih =>
        obtain ⟨key, old⟩ := entry
        simp [List.lookup_cons, ih]

theorem stores_storeFile (files : List (String × String)) (name content : String) :
    Stores (storeFile files name content) name content where
  there := by rw [storedFile?_storeFile]; rfl
  only := by
    unfold storeFile
    split
    · intro entry hentry hname
      obtain ⟨old, -, rfl⟩ := List.mem_map.mp hentry
      split at hname
      · rename_i hold
        simp [hold]
      · rename_i hold
        exact absurd (beq_iff_eq.mpr hname) hold
    · rename_i hnone
      rw [Option.not_isSome_iff_eq_none, List.lookup_eq_none_iff] at hnone
      intro entry hentry hname
      rcases List.mem_append.mp hentry with hold | hnew
      · exact absurd hname.symm (by simpa using hnone entry hold)
      · rw [List.mem_singleton.mp hnew]

/-- Storing another file leaves a file stored. -/
theorem Stores.storeFile_of_ne (h : Stores files name content) (hne : name ≠ other)
    (content' : String) : Stores (storeFile files other content') name content where
  there := by rw [lookup_storeFile_of_ne hne]; exact h.there
  only := by
    intro entry hentry hname
    unfold storeFile at hentry
    split at hentry
    · obtain ⟨old, hold, rfl⟩ := List.mem_map.mp hentry
      split at hname
      · exact absurd hname.symm hne
      · rename_i hother
        simp only [hother] at hname ⊢
        exact h.only old hold hname
    · rcases List.mem_append.mp hentry with hold | hnew
      · exact h.only entry hold hname
      · rw [List.mem_singleton.mp hnew] at hname
        exact absurd hname.symm hne

/-- Storing a file again changes nothing. -/
theorem Stores.storeFile_eq (h : Stores files name content) : storeFile files name content = files := by
  unfold storeFile
  rw [if_pos h.there]
  refine (List.map_congr_left fun entry hentry => ?_).trans (List.map_id files)
  by_cases hname : entry.1 = name
  · have hcontent := h.only entry hentry hname
    rw [if_pos (beq_iff_eq.mpr hname), ← hname, ← hcontent]
    rfl
  · rw [if_neg (by simpa using hname)]
    rfl

/-! ## Deployed programs -/

/-- What a controller holds of a program that was sent to it, and what of the state before. -/
structure Deployed (sim : Simulator) (file descriptor file' text : String) (m : LoadedModule)
    (sim' : Simulator) : Prop where
  modules : sim'.modules = [m]
  program : sim'.program = some file
  pointer : sim'.pointer = some ⟨m.name, "main", 0⟩
  running : sim'.running = true
  descriptor_stored : sim'.storedFile? file = some descriptor
  text_stored : sim'.storedFile? file' = some text
  others : ∀ name, name ≠ file → name ≠ file' → sim'.storedFile? name = sim.storedFile? name
  free : sim'.loggedOn = false ∧ sim'.mastership = false
  grants : sim'.grants = sim.grants + 1
  /-- The settings are those from before. -/
  settings : sim'.reachable = sim.reachable ∧ sim'.credentials = sim.credentials ∧
    sim'.mode = sim.mode ∧ sim'.rejectNextLoad = sim.rejectNextLoad ∧
    sim'.failNextRelease = sim.failNextRelease ∧ sim'.robtarget = sim.robtarget ∧
    sim'.jointtarget = sim.jointtarget

variable {sim : Simulator} {file descriptor file' text : String} {m : LoadedModule}

theorem deployed_deployed (hne : file ≠ file') :
    Deployed sim file descriptor file' text m (Workflow.deployed sim file descriptor file' text m) where
  modules := rfl
  program := rfl
  pointer := rfl
  running := rfl
  descriptor_stored := by
    show List.lookup file (storeFile (storeFile sim.files file descriptor) file' text) = _
    rw [lookup_storeFile_of_ne hne, storedFile?_storeFile]
  text_stored := storedFile?_storeFile (storeFile sim.files file descriptor) file' text
  others name hfile hfile' := by
    show List.lookup name (storeFile (storeFile sim.files file descriptor) file' text) = _
    rw [lookup_storeFile_of_ne hfile', lookup_storeFile_of_ne hfile]
    rfl
  free := ⟨rfl, rfl⟩
  grants := rfl
  settings := ⟨rfl, rfl, rfl, rfl, rfl, rfl, rfl⟩

/-- A program that is on a controller is sent once more. -/
theorem deployed_again (hne : file ≠ file') :
    Workflow.deployed (Workflow.deployed sim file descriptor file' text m) file descriptor file' text
      m = { Workflow.deployed sim file descriptor file' text m with grants := sim.grants + 2 } := by
  let files := storeFile (storeFile sim.files file descriptor) file' text
  have hdescriptor : Stores files file descriptor :=
    (stores_storeFile sim.files file descriptor).storeFile_of_ne hne text
  have htext : Stores files file' text :=
    stores_storeFile (storeFile sim.files file descriptor) file' text
  have hfiles : storeFile (storeFile files file descriptor) file' text = files := by
    rw [hdescriptor.storeFile_eq, htext.storeFile_eq]
  show ({ Workflow.deployed sim file descriptor file' text m with
    files := storeFile (storeFile files file descriptor) file' text
    grants := sim.grants + 2 } : Simulator) = _
  rw [hfiles]
  rfl

/-- A controller that took a program takes it again. -/
theorem Ready.deployed {user : Credentials} (h : sim.Ready user) :
    (Workflow.deployed sim file descriptor file' text m).Ready user where
  reachable := h.reachable
  user := h.user
  mode := h.mode
  mastership := rfl
  load := h.load
  release := h.release

end Simulator

/-- **A deployment determines the controller**: a program whose two files can be read and have
different names, and whose module has a header and an end, is deployed to a controller that is ready
for it, whatever else that holds.  Afterwards its module is the only one and runs from the entry
routine, its files are stored and the others as they were, and nobody is logged on.  Sending it
again changes the number of grants and nothing else. -/
theorem deploy_determines_controller {workspace : Files} {p : ProgramFiles}
    {handle : ControllerHandle} {s : Session} {sim : Simulator} {descriptor text : String}
    (hstate : s.state = .disconnected) (hready : sim.Ready s.user)
    (hnames : fileName? p.program ≠ fileName? p.module)
    (hdescriptor : workspace.readAny p.program = .ok descriptor)
    (htext : workspace.readAny p.module = .ok text)
    (hheader : ModuleScan.HasHeader text.toList) (hend : "ENDMODULE".toList <:+: text.toList) :
    ∃ s' sim' m file file', fileName? p.program = some file ∧ fileName? p.module = some file' ∧
      LoadedModule.scan text = .ok m ∧
      Simulator.perform workspace (Workflow.sendProgram workspace handle p) s sim =
        ((.ok (), s'), sim') ∧ s'.state = .disconnected ∧
      Simulator.Deployed sim file descriptor file' text m sim' ∧
      ∀ (handle' : ControllerHandle) (t : Session), t.state = .disconnected → t.user = s.user →
        ∃ t', Simulator.perform workspace (Workflow.sendProgram workspace handle' p) t sim' =
          ((.ok (), t'), { sim' with grants := sim'.grants + 1 }) ∧ t'.state = .disconnected := by
  obtain ⟨file, hfile⟩ := Files.exists_fileName?_of_readAny hdescriptor
  obtain ⟨file', hfile'⟩ := Files.exists_fileName?_of_readAny htext
  obtain ⟨m, hscan⟩ := LoadedModule.exists_scan hheader hend
  have hne : file ≠ file' := by
    rintro rfl
    exact hnames (hfile.trans hfile'.symm)
  obtain ⟨s', hsend, hs', -⟩ :=
    Workflow.perform_sendProgram hstate hready hfile hfile' hdescriptor htext hscan
  refine ⟨s', _, m, file, file', hfile, hfile', hscan, hsend, hs',
    Simulator.deployed_deployed hne, fun handle' t ht huser => ?_⟩
  have hready' : (Workflow.deployed sim file descriptor file' text m).Ready t.user :=
    huser ▸ hready.deployed
  obtain ⟨t', hagain, ht', -⟩ :=
    Workflow.perform_sendProgram ht hready' hfile hfile' hdescriptor htext hscan
  rw [Simulator.deployed_again hne] at hagain
  exact ⟨t', hagain, ht'⟩

/-- A module takes the place of two others, one of them of its name. -/
theorem deploy_determines_controller_busy :
    let text := "! cell\n MODULE M\nENDMODULE\n"
    let sim : Simulator :=
      { loggedOn := true, files := [("m", "old"), ("x", "kept")], program := some "q"
        modules := [⟨"Old", []⟩, ⟨"M", [⟨"M", "n", "num", "1"⟩]⟩], pointer := some ⟨"Old", "rStart", 7⟩ }
    ∃ stored s' sim' m,
      Simulator.perform stored (Workflow.sendProgram stored Simulator.handle ⟨"p", "m"⟩) {} sim =
        ((.ok (), s'), sim') ∧ LoadedModule.scan text = .ok m ∧ m.name = "M" ∧
      Simulator.Deployed sim "p" (programDescriptor ["m"]) "m" text m sim' ∧
      sim'.storedFile? "x" = some "kept" := by
  intro text sim
  obtain ⟨stored, hstore, hp, hm⟩ := ProgramFiles.exists_write text
  have hnames : fileName? "p" ≠ fileName? "m" := by
    rw [hp, hm]
    decide
  obtain ⟨file, file', -, hfile', hdescriptor, htext⟩ := ProgramFiles.readAny_of_write hnames hstore
  obtain rfl : "m" = file' := Option.some.inj (hm.symm.trans hfile')
  have hready : sim.Ready ({} : Session).user := ⟨rfl, rfl, rfl, rfl, rfl, rfl⟩
  have hheader : ModuleScan.HasHeader text.toList :=
    ⟨"! cell\n".toList, " MODULE M\nENDMODULE\n".toList, [' '], [' '], ['M'],
      "\nENDMODULE\n".toList, by decide, .inr (by decide),
      ⟨by decide, List.forall_mem_singleton.mpr (by decide), by decide,
        List.forall_mem_singleton.mpr (by decide), by decide,
        List.forall_mem_singleton.mpr (by decide)⟩⟩
  have hend : "ENDMODULE".toList <:+: text.toList :=
    ⟨"! cell\n MODULE M\n".toList, ['\n'], by decide⟩
  obtain ⟨s', sim', m, file, file', hfile, hfile', hscan, hsend, -, hdeployed, -⟩ :=
    @deploy_determines_controller stored ⟨"p", "m"⟩ Simulator.handle {} sim
      (programDescriptor ["m"]) text rfl hready hnames hdescriptor htext hheader hend
  obtain rfl : "p" = file := Option.some.inj (hp.symm.trans hfile)
  obtain rfl : "m" = file' := Option.some.inj (hm.symm.trans hfile')
  have hname : m.name = "M" := by
    have hscanned : (LoadedModule.scan text).toOption.map (·.name) = some "M" := by decide +kernel
    rw [hscan] at hscanned
    exact Option.some.inj hscanned
  exact ⟨stored, s', sim', m, hsend, hscan, hname, hdeployed,
    (hdeployed.others "x" (by decide) (by decide)).trans rfl⟩

end RobotCell
