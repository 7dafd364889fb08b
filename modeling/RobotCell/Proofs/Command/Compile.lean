import RobotCell.Command.Run
import RobotCell.Proofs.Data.Json
import RobotCell.Proofs.Files
import RobotCell.Proofs.Program.Job
import RobotCell.Proofs.Settings.Validation

/-!
# RobotCell.Proofs.Command.Compile

What a compilation leaves on the files.

Everything that can be wrong with a job is found before the first write: the settings, the job file,
its blocks and its insertions are gone through in this order, and the first trouble ends the run on
the files as they were (`Source.Refuses.compile_eq`).  A source without trouble has one module and
one list of sets, which say what the texts of the module and the manifest are (`Texts`); then the
module, the descriptor and the manifest are written in this order, up to the first that cannot be
(`Source.Reads.compile_eq`).  One of the two is always the case (`compile_all_or_nothing`).
-/

namespace RobotCell

namespace Settings

variable {s : Settings}

/-- Settings that are loaded are sound. -/
theorem sound_of_load {files : Files} {environment : List (String × String)} {path : String}
    (h : load files environment path = .ok s) : s.Sound := by
  unfold load ofSources at h
  simp only at h
  split at h
  · cases h
  split at h
  · cases h
  rename_i hvalid
  obtain rfl := Except.ok.inj h
  exact defect?_eq_none_iff.mp (validate_eq_ok_iff.mp hvalid)

/-- Settings that load have usable tables of speeds and zones. -/
theorem exists_compiler_of_load {files : Files} {environment : List (String × String)}
    {path : String} (h : load files environment path = .ok s) : ∃ c, s.compiler = .ok c := by
  obtain ⟨c, hcompiler, -⟩ := (sound_of_load h).compiler
  exact ⟨c, hcompiler⟩

end Settings

namespace Command

/-! ## Runs on files -/

/-- What a run ends with, and the files that it leaves. -/
def runOn {α : Type} (x : RunM (StateM Files) α) (files : Files) : Except Fault α × Files :=
  x.run files

section Runs

variable {α β : Type} {files : Files}

/-- A fault ends a run and leaves the tree as it is. -/
theorem runOn_throw (fault : Fault) :
    runOn (throw fault : RunM (StateM Files) α) files = (.error fault, files) := rfl

/-- What comes next runs on the tree that the first part leaves, and only if that succeeds. -/
theorem runOn_bind (x : RunM (StateM Files) α) (f : α → RunM (StateM Files) β) :
    runOn (x >>= f) files =
      match runOn x files with
      | (.ok a, after) => runOn (f a) after
      | (.error fault, after) => (.error fault, after) := by
  show (ExceptT.bindCont f (x.run files).1) (x.run files).2 = _
  unfold runOn
  rcases x.run files with ⟨_ | a, after⟩ <;> rfl

/-- Reading a file leaves the tree as it is. -/
theorem runOn_file? (path : String) :
    runOn (FileSystem.file? path) files = (.ok (files.file? path), files) := rfl

/-- Looking for a file leaves the tree as it is. -/
theorem runOn_fileAbove? (path : String) :
    runOn (FileSystem.fileAbove? path) files = (.ok (files.fileAbove? path), files) := rfl

/-- A write that fails leaves the tree as it is. -/
theorem runOn_write (path text : String) :
    runOn (FileSystem.write path text) files =
      match files.write path text with
      | .ok after => (.ok (.ok ()), after)
      | .error e => (.ok (.error e), files) := by
  have hlift : runOn (FileSystem.write path text) files =
      (Except.ok ((FileSystem.write path text : StateM Files _) files).1,
        ((FileSystem.write path text : StateM Files _) files).2) := rfl
  rw [hlift]
  simp only [FileSystem.write]
  cases files.write path text with
  | ok after => rfl
  | error e => rfl

/-- A write that fails is the fault of the run. -/
theorem runOn_writeOr (fault : Failure → Fault) (path text : String) :
    runOn (writeOr fault path text) files =
      match files.write path text with
      | .ok after => (.ok (), after)
      | .error e => (.error (fault e), files) := by
  unfold writeOr
  rw [runOn_bind, runOn_write]
  cases files.write path text with
  | ok after => rfl
  | error e => rfl

end Runs

/-! ## Writing in turn -/

/-- A text to be written, and what is told when it cannot be. -/
structure Output where
  path : String
  text : String
  fault : Failure → Fault

/-- Writes outputs in turn, up to the first that cannot be written. -/
def writeAll : List Output → RunM (StateM Files) Unit
  | [] => pure ()
  | o :: rest => do
    writeOr o.fault o.path o.text
    writeAll rest

/-- How writing ends with outputs left: well when none is, or because the first of them cannot be
written. -/
inductive Ends (files : Files) : List Output → Except Fault Unit → Prop
  | done : Ends files [] (.ok ())
  | stuck {o : Output} {rest : List Output} {cause : Failure} :
      files.write o.path o.text = .error cause → Ends files (o :: rest) (.error (o.fault cause))

/-- Outputs written as far as possible, to some places; those that are left follow. -/
structure Written (files : Files) (outputs : List Output) (done left : List Output)
    (places : List (List String)) (result : Except Fault Unit) (after : Files) : Prop where
  outputs_eq : outputs = done ++ left
  writes : files.WrittenTo (done.map fun o => (o.path, o.text)) places after
  ends : Ends after left result

/-- Texts are written in their order up to the first that cannot be. -/
theorem runOn_writeAll (outputs : List Output) (files : Files) :
    ∃ done left places, Written files outputs done left places
      (runOn (writeAll outputs) files).1 (runOn (writeAll outputs) files).2 := by
  induction outputs generalizing files with
  | nil => exact ⟨[], [], [], rfl, .nil, .done⟩
  | cons o rest ih =>
      rw [writeAll, runOn_bind, runOn_writeOr]
      cases hwrite : files.write o.path o.text with
      | error cause => exact ⟨[], o :: rest, [], rfl, .nil, .stuck hwrite⟩
      | ok next =>
          obtain ⟨dir, name, hwrites⟩ := Files.writes_of_write hwrite
          obtain ⟨done, left, places, hrest⟩ := ih next
          exact ⟨o :: done, left, (dir ++ [name]) :: places, congrArg (o :: ·) hrest.outputs_eq,
            .cons hwrites hrest.writes, hrest.ends⟩

/-- Outputs that can all be written are written. -/
theorem Written.of_writtenTo {files after after' : Files} {outputs done left : List Output}
    {places places' : List (List String)} {result : Except Fault Unit}
    (h : Written files outputs done left places result after)
    (hall : files.WrittenTo (outputs.map fun o => (o.path, o.text)) places' after') :
    done = outputs ∧ result = .ok () ∧ places = places' ∧ after = after' := by
  obtain ⟨rfl, hdone, hends⟩ := h
  induction done generalizing files places places' with
  | nil =>
      cases hdone
      cases left with
      | nil =>
          cases hends
          cases hall
          exact ⟨rfl, rfl, rfl, rfl⟩
      | cons o left =>
          -- the first of the outputs left could be written
          cases hends with
          | stuck hstuck =>
              cases hall with
              | cons hwrites _ => cases hwrites.write_eq.symm.trans hstuck
  | cons o done ih =>
      cases hdone with
      | cons hwrites hrest =>
          cases hall with
          | cons hwrites' hrest' =>
              obtain ⟨rfl, rfl, rfl⟩ := hwrites.unique hwrites'
              obtain ⟨hdone, hresult, rfl, hafter⟩ := ih hrest hrest'
              exact ⟨congrArg (o :: ·) hdone, hresult, rfl, hafter⟩

/-! ## Texts -/

/-- The table of a compiled set in a manifest. -/
def setTable (set : CompiledSet) : Datum :=
  .table [
    ("declarations", .list (set.declarations.map fun d => .table [
      ("index", .integer d.index), ("names", .list (d.names.map .string)),
      ("text", .string d.text)])),
    ("instructions", .list (set.instructions.map fun s => .table [
      ("index", .integer s.index), ("opcode", .string s.opcode),
      ("speed", (s.speed.map .string).getD .null), ("zone", (s.zone.map .string).getD .null),
      ("text", .string s.text)]))]

/-- The text of a manifest. -/
def manifestText (sets : List CompiledSet) : String := Json.pretty (.list (sets.map setTable))

/-- A set is written as its table. -/
theorem toDatum_eq_setTable : CompiledSet.toDatum = setTable := by
  funext set
  have hinstruction : Instruction.toDatum = fun s => .table [
      ("index", .integer s.index), ("opcode", .string s.opcode),
      ("speed", (s.speed.map .string).getD .null), ("zone", (s.zone.map .string).getD .null),
      ("text", .string s.text)] := by
    funext ⟨index, opcode, speed, zone, text⟩
    cases speed <;> cases zone <;> rfl
  rw [CompiledSet.toDatum, hinstruction]
  rfl

/-- An operand that may be missing is text or null. -/
theorem plain_operand (symbol : Option String) :
    Json.Plain ((symbol.map Datum.string).getD .null) := by
  cases symbol with
  | none => exact .null
  | some symbol => exact .string symbol

/-- The table of a set is plain when there are words enough for its indices. -/
theorem plain_setTable {c : Compiler} {block : Block} {set : CompiledSet}
    (h : block.Makes c set) (hlen : set.instructions.length ≤ wordLimit) :
    Json.Plain (setTable set) := by
  obtain ⟨hdeclarations, hinstructions⟩ := h.index_lt
  refine .table (by simp [Fields.Distinct]) ?_
  simp only [List.forall_mem_cons, List.not_mem_nil, false_implies, implies_true, and_true]
  constructor
  · refine .list ?_
    rw [List.forall_mem_map]
    intro d hd
    refine .table (by simp [Fields.Distinct]) ?_
    simp only [List.forall_mem_cons, List.not_mem_nil, false_implies, implies_true, and_true]
    refine ⟨.integer (Nat.lt_of_lt_of_le (hdeclarations d hd) hlen), .list ?_, .string d.text⟩
    rw [List.forall_mem_map]
    exact fun name _ => .string name
  · refine .list ?_
    rw [List.forall_mem_map]
    intro s hs
    refine .table (by simp [Fields.Distinct]) ?_
    simp only [List.forall_mem_cons, List.not_mem_nil, false_implies, implies_true, and_true]
    exact ⟨.integer (Nat.lt_of_lt_of_le (hinstructions s hs) hlen), .string s.opcode,
      plain_operand s.speed, plain_operand s.zone, .string s.text⟩

/-- What the texts of a compilation are: the module lists the tools and the work objects of the job,
the constants of its blocks and its routine, the descriptor lists the file of the module, and the
manifest is read as one table for each set. -/
structure Texts (job : Job) (sets : List CompiledSet) (routine : List String) (file : Option String)
    (module descriptor manifest : String) : Prop where
  module : module = "MODULE MainModule\n\t! Program data\n" ++
    String.join (job.tools.map fun t => (toolData t.name t.frame t.mass).text) ++ "\n" ++
    String.join (job.wobjs.map fun w => (wobjData w.name w.frame).text) ++
    "\n\n\t! Target data" ++
    String.join (sets.flatMap fun set => set.declarations.map (·.text)) ++
    "\n\n\t! Routine\n\tPROC main()\n\t\tConfL\\Off;\n\t\tSingArea\\Wrist;\n\t\trStart;\n" ++
    "\t\tRETURN;\n\tENDPROC\n\n\tPROC rStart()\n\n\t\t! instructions" ++
    String.join routine ++ "\n\t\tRETURN;\n\tENDPROC\n\nENDMODULE\n"
  descriptor : descriptor = "<?xml version=\"1.0\" encoding=\"ISO-8859-1\" ?>\n<Program>\n" ++
    String.join (file.toList.map fun file => "\t<Module>" ++ file ++ "</Module>\n") ++
    "</Program>\n"
  manifest : (∀ set ∈ sets, set.instructions.length ≤ wordLimit) →
    Json.parse? manifest = some (.list (sets.map setTable))

/-- The three texts of a job are the ones that its module and its sets give. -/
theorem texts_of_yields {c : Compiler} {job : Job} {m : ProgramModule} {sets : List CompiledSet}
    (h : job.Yields c m sets) (file : Option String) :
    Texts job sets m.instructions file m.render (programDescriptor file.toList)
      (manifestText sets) where
  module := by
    have hhead : "MODULE " ++ moduleName ++ "\n\t! Program data\n" =
        "MODULE MainModule\n\t! Program data\n" := by decide +kernel
    have hconstants : m.declarations = sets.flatMap fun set => set.declarations.map (·.text) :=
      h.declarations
    unfold ProgramModule.render
    simp only [hhead, h.tools, h.wobjs, hconstants]
  descriptor := rfl
  manifest hsets := by
    refine Json.parse?_pretty (.list (List.forall_mem_map.mpr fun set hset => ?_))
    obtain ⟨block, hblock⟩ := h.exists_makes hset
    exact plain_setTable hblock (hsets set hset)

/-- The outputs of a compilation: the module, the descriptor that names its file, and the sets. -/
def outputs (paths : Compilation) (m : ProgramModule) (sets : List CompiledSet) : List Output :=
  ⟨paths.output, m.render, .output⟩ ::
    (paths.descriptor.toList.map fun path =>
      ⟨path, programDescriptor (fileName? paths.output).toList, .output⟩) ++
    paths.manifest.toList.map fun path => ⟨path, manifestText sets, fun _ => .manifest path⟩

/-- A product is written as its module, its descriptor and its manifest, as far as they are asked
for. -/
theorem runOn_writeProduct (paths : Compilation) (m : ProgramModule) (sets : List CompiledSet)
    (files : Files) :
    runOn (writeProduct paths
      ⟨m.render, Json.pretty (.list (sets.map CompiledSet.toDatum))⟩) files =
        runOn (writeAll (outputs paths m sets)) files := by
  rw [toDatum_eq_setTable, writeProduct, outputs, List.cons_append, writeAll, runOn_bind,
    runOn_bind, runOn_writeOr]
  cases hwrite : files.write paths.output m.render with
  | error cause => rfl
  | ok next =>
      obtain ⟨dir, name, hwrites⟩ := Files.writes_of_write hwrite
      have hname := hwrites.fileName?_eq
      obtain ⟨job, output, descriptor, manifest⟩ := paths
      simp only at hname ⊢
      cases descriptor <;> cases manifest <;>
        simp [writeAll, writeDescriptor, hname, manifestText]

/-! ## Sources -/

/-- What a compilation starts from. -/
structure Source where
  environment : List (String × String)
  settingsPath : String
  verbosity : Nat := 0
  paths : Compilation
  files : Files

/-- The job that a text describes. -/
def jobOf? (text : String) : Option Job :=
  (Toml.parse? text).bind fun fields => Job.ofDatum? (.table fields)

namespace Source

/-- The request for a compilation. -/
def request (src : Source) : Request :=
  { settingsPath := src.settingsPath, verbosity := src.verbosity, task := .compile src.paths }

/-- The settings of a source. -/
def settings (src : Source) : Except Failure Settings :=
  Settings.load src.files src.environment src.settingsPath

/-- What a compilation ends with, and the files that it leaves. -/
def compile (src : Source) : Except Fault Report × Files :=
  runOn (run src.environment src.request) src.files

/-- A source that says what is to be compiled, and how. -/
structure Reads (src : Source) (s : Settings) (c : Compiler) (job : Job) : Prop where
  settings : src.settings = .ok s
  compiler : s.compiler = .ok c
  job : ∃ text, src.files.file? src.paths.job = some (.text text) ∧ jobOf? text = some job

/-- A source that cannot be compiled, and what is told about it: the first of these troubles. -/
inductive Refuses (src : Source) : Fault → Prop
  | settings {cause : Failure} :
      src.settings = .error cause → Refuses src (.settings src.settingsPath cause)
  | unreadable {s : Settings} :
      src.settings = .ok s → (∀ text, src.files.file? src.paths.job ≠ some (.text text)) →
        Refuses src (.unreadableJob src.paths.job)
  | invalid {s : Settings} {text : String} :
      src.settings = .ok s → src.files.file? src.paths.job = some (.text text) →
        jobOf? text = none → Refuses src (.invalidJob src.paths.job)
  | job {s : Settings} {c : Compiler} {job : Job} {fault : JobFault} :
      src.Reads s c job → job.Fails c fault → Refuses src (.job fault)

variable {src : Source}

/-- What is told of a compilation when it ends well. -/
def report (src : Source) (s : Settings) : Report :=
  ⟨"", LogLevel.ofVerbosity s.application.logLevel src.verbosity⟩

/-- With settings that load the command compiles with them. -/
theorem compile_of_settings {s : Settings} (h : src.settings = .ok s) :
    src.compile =
      Prod.map (Except.map fun _ => src.report s) id
        (runOn (Command.compile s src.paths) src.files) := by
  unfold compile run
  rw [runOn_bind, runOn_fileAbove?]
  have hload : Settings.ofSources (src.files.fileAbove? src.settingsPath) src.environment = .ok s := h
  simp only [request, hload]
  rw [runOn_bind]
  rcases runOn (Command.compile s src.paths) src.files with ⟨_ | _, after⟩ <;> rfl

/-- The text of a job file goes through the job, the tables and the steps of the job. -/
theorem compileText_eq (s : Settings) (path text : String) :
    compileText s path text =
      match jobOf? text with
      | none => .error (.invalidJob path)
      | some job =>
        match s.compiler with
        | .error cause => .error (.catalogs cause)
        | .ok c =>
          match job.compile c with
          | .error fault => .error (.job fault)
          | .ok (m, sets) =>
            .ok ⟨m.render, Json.pretty (.list (sets.map CompiledSet.toDatum))⟩ := rfl

/-- A job file that is there is compiled, and written only if that succeeds. -/
theorem runOn_compile {s : Settings} {paths : Compilation} {files : Files} {text : String}
    (h : files.file? paths.job = some (.text text)) :
    runOn (Command.compile s paths) files =
      match compileText s paths.job text with
      | .error fault => (.error fault, files)
      | .ok product => runOn (writeProduct paths product) files := by
  rw [Command.compile, runOn_bind, runOn_file?, h]
  simp only
  cases compileText s paths.job text with
  | error fault => rfl
  | ok product => rfl

/-- A source that is refused is told about, and every file is as it was. -/
theorem Refuses.compile_eq {fault : Fault} (h : src.Refuses fault) :
    src.compile = (.error fault, src.files) := by
  cases h with
  | settings hsettings =>
      unfold compile run
      rw [runOn_bind, runOn_fileAbove?]
      have hload : Settings.ofSources (src.files.fileAbove? src.settingsPath) src.environment =
        .error _ := hsettings
      simp only [request, hload, runOn_throw]
  | unreadable hsettings htext =>
      rw [compile_of_settings hsettings, Command.compile, runOn_bind, runOn_file?]
      cases hfile : src.files.file? src.paths.job with
      | none => rfl
      | some node =>
          cases node with
          | text text => exact absurd hfile (htext text)
          | directory | binary => rfl
  | invalid hsettings htext hjob =>
      rw [compile_of_settings hsettings, runOn_compile htext, compileText_eq, hjob]
      rfl
  | job hreads hfails =>
      obtain ⟨text, htext, hjob⟩ := hreads.job
      rw [compile_of_settings hreads.settings, runOn_compile htext, compileText_eq, hjob]
      simp only [hreads.compiler, hfails.compile_eq]
      rfl

/-- A source with a module writes its outputs, one after the other. -/
theorem Reads.compile_eq {s : Settings} {c : Compiler} {job : Job} {m : ProgramModule}
    {sets : List CompiledSet} (h : src.Reads s c job) (hyields : job.Yields c m sets) :
    src.compile =
      Prod.map (Except.map fun _ => src.report s) id
        (runOn (writeAll (outputs src.paths m sets)) src.files) := by
  obtain ⟨text, htext, hjob⟩ := h.job
  rw [compile_of_settings h.settings, runOn_compile htext, compileText_eq, hjob]
  simp only [h.compiler, hyields.compile_eq]
  rw [runOn_writeProduct]

/-- The sources are refused with a fault, or give a job that yields a module. -/
theorem refuses_or_reads (src : Source) :
    (∃ fault, src.Refuses fault) ∨
      ∃ s c job m sets, src.Reads s c job ∧ job.Yields c m sets := by
  cases hsettings : src.settings with
  | error cause => exact .inl ⟨_, .settings hsettings⟩
  | ok s =>
      obtain ⟨c, hcompiler⟩ := Settings.exists_compiler_of_load hsettings
      by_cases htext : ∃ text, src.files.file? src.paths.job = some (.text text)
      · obtain ⟨text, htext⟩ := htext
        cases hjob : jobOf? text with
        | none => exact .inl ⟨_, .invalid hsettings htext hjob⟩
        | some job =>
            have hreads : src.Reads s c job := ⟨hsettings, hcompiler, text, htext, hjob⟩
            rcases job.yields_or_fails c with ⟨m, sets, hyields⟩ | ⟨fault, hfails⟩
            · exact .inr ⟨s, c, job, m, sets, hreads, hyields⟩
            · exact .inl ⟨_, .job hreads hfails⟩
      · exact .inl ⟨_, .unreadable hsettings (not_exists.mp htext)⟩

end Source

/-- **A compilation writes nothing, or a whole program.**

A source that is refused leaves every file as it was: the settings do not load, the job file is not
read, a block does not compile and the first such is told, or an insertion has no result.

Any other source has a module and the sets of its blocks, each the one that its block makes.  The
routine has the lines of the sets with the insertions of the job placed one after the other, so it
has a line for each instruction of the blocks and each position of the insertions.  The module, the
descriptor that is asked for, and the manifest are written in turn, up to the first that cannot be
written, which is told; and what was written to different places is read back.  The module lists the
tools and work objects in the order of the job, the constants of the sets and the routine; the
descriptor lists the file of the module; and the manifest has the table of each set, as it was
before the insertions. -/
theorem compile_all_or_nothing (src : Source) :
    (∀ fault, src.Refuses fault → src.compile = (.error fault, src.files)) ∧
    (∀ s c job m sets, src.Reads s c job → job.Yields c m sets →
      List.Forall₂ (fun block set => block.Makes c set) job.blocks sets ∧
      m.instructions = job.insertions.foldl Insertion.place
        (sets.flatMap fun set => set.instructions.map (·.text)) ∧
      m.instructions.length = (sets.map (·.instructions.length)).sum +
        (job.insertions.map (·.positions.length)).sum ∧
      Texts job sets m.instructions (fileName? src.paths.output) m.render
        (programDescriptor (fileName? src.paths.output).toList) (manifestText sets) ∧
      ∃ done left places result after,
        Written src.files (outputs src.paths m sets) done left places result after ∧
        src.compile = (result.map fun _ => src.report s, after) ∧
        (places.Nodup → ∀ o ∈ done, after.readAny o.path = .ok o.text)) ∧
    ((∃ fault, src.Refuses fault) ∨
      ∃ s c job m sets, src.Reads s c job ∧ job.Yields c m sets) := by
  refine ⟨fun fault h => h.compile_eq, fun s c job m sets hreads hyields => ?_,
    src.refuses_or_reads⟩
  obtain ⟨done, left, places, hwritten⟩ :=
    runOn_writeAll (outputs src.paths m sets) src.files
  refine ⟨hyields.blocks.imp fun _ _ => Block.makes_of_compile, hyields.routine.eq_foldl,
    hyields.length_instructions, texts_of_yields hyields _, done, left, places, _, _, hwritten,
    hreads.compile_eq hyields, fun hplaces o ho => ?_⟩
  exact hwritten.writes.readAny_eq hplaces (o.path, o.text) (List.mem_map_of_mem ho)

/-- A job of two statements with others between them. -/
def stopJob (statements : String) : String :=
  "[[block]]\nkind = \"Custom\"\nstatements = [\"Open\", \"Close\"]\n" ++
    "[[insert]]\nat = [1]\nstatements = [" ++ statements ++ "]\n"

/-- The job in a working directory below the root, without a settings file; the module goes beside
it, and the manifest to the root. -/
def stopSource (statements : String) : Source where
  environment := []
  settingsPath := "s"
  paths := { job := "j", output := "o", manifest := some "/m" }
  files := { nodes := [(["w", "j"], .text (stopJob statements))], working := ["w"] }

theorem pathSteps_letters :
    pathSteps "s" = ["s"] ∧ pathSteps "j" = ["j"] ∧ pathSteps "o" = ["o"] := by
  refine ⟨?_, ?_, ?_⟩ <;>
    · unfold pathSteps String.splitOn
      rw [String.splitOnAux, String.splitOnAux]
      rfl

/-- A path from the root has no step for it. -/
theorem pathSteps_root : pathSteps "/m" = ["m"] := by
  have hslash : "/m".splitOnAux "/" 0 0 0 [] = "/m".splitOnAux "/" ⟨1⟩ ⟨1⟩ 0 [""] := by
    rw [String.splitOnAux]
    rfl
  have hname : "/m".splitOnAux "/" ⟨1⟩ ⟨1⟩ 0 [""] = ["", "m"] := by
    rw [String.splitOnAux, String.splitOnAux]
    rfl
  unfold pathSteps String.splitOn
  rw [hslash, hname]
  rfl

/-- The job with the insertions that its text says. -/
theorem stopSource_reads {statements : String} {job : Job}
    (h : jobOf? (stopJob statements) = some job) : ∃ s c, (stopSource statements).Reads s c job := by
  have hsettings : (stopSource statements).files.fileAbove? "s" = none := by
    have hpath : Files.isPath "s" = true := by decide +kernel
    have hrelative : Files.isAbsolute "s" = false := by decide +kernel
    have hupwards : Files.upwards (stopSource statements).files.working = [["w"], []] := rfl
    rw [Files.fileAbove?, hrelative, hupwards]
    simp only [List.findSome?, Files.fileFrom?, Files.resolveFrom, pathSteps_letters.1, hpath]
    rfl
  have hjob : (stopSource statements).files.file? "j" = some (.text (stopJob statements)) := by
    have hpath : Files.isPath "j" = true := by decide +kernel
    have hrelative : Files.isAbsolute "j" = false := by decide +kernel
    simp only [Files.file?, Files.start, Files.fileFrom?, Files.resolveFrom, pathSteps_letters.2.1,
      hpath, hrelative]
    rfl
  obtain ⟨s, hs⟩ : ∃ s, (stopSource statements).settings = .ok s := by
    unfold Source.settings Settings.load
    rw [show (stopSource statements).settingsPath = "s" from rfl, hsettings]
    cases hload : Settings.ofSources none [] with
    | ok s => exact ⟨s, hload⟩
    | error cause =>
        have hsome : (Settings.ofSources none []).toOption.isSome = true := by decide +kernel
        rw [hload] at hsome
        cases hsome
  obtain ⟨c, hc⟩ := Settings.exists_compiler_of_load hs
  exact ⟨s, c, hs, hc, _, hjob, h⟩

/-- A text goes into the working directory. -/
theorem stopSource_writes (statements text : String) :
    (stopSource statements).files.Writes "o" text ["w"] "o"
      ((stopSource statements).files.put ["w", "o"] (.text text)) where
  isPath := by decide +kernel
  dot := by decide
  up := by decide
  isName := by decide
  steps := ⟨[], pathSteps_letters.2.2, by
    have hrelative : Files.isAbsolute "o" = false := by decide +kernel
    simp only [Files.start, hrelative]
    rfl⟩
  directory := rfl
  free := fun h => by cases h
  after_eq := rfl

/-- Two texts go into the working directory and to the root. -/
theorem stopSource_writtenTo (statements text text' : String) :
    ∃ after, (stopSource statements).files.WrittenTo [("o", text), ("/m", text')]
      [["w", "o"], ["m"]] after := by
  have hroot : ((stopSource statements).files.put ["w", "o"] (.text text)).Writes "/m" text' [] "m"
      (((stopSource statements).files.put ["w", "o"] (.text text)).put ["m"] (.text text')) := by
    refine ⟨by decide +kernel, by decide, by decide, by decide, ⟨[], pathSteps_root, ?_⟩, rfl,
      (fun h => by cases h), rfl⟩
    have habsolute : Files.isAbsolute "/m" = true := by decide +kernel
    simp only [Files.start, habsolute]
    rfl
  exact ⟨_, .cons (stopSource_writes statements text) (.cons hroot .nil)⟩

/-- A statement goes between two others, which alone are in the manifest; without one nothing is
written. -/
theorem compile_all_or_nothing_stop :
    (∃ report after m manifest, (stopSource "\"Stop\"").compile = (.ok report, after) ∧
      m.instructions = ["\n\t\tOpen;", "\n\t\tStop;", "\n\t\tClose;"] ∧
      after.readAny "o" = .ok (ProgramModule.render m) ∧
      after.readAny "/m" = .ok manifest ∧
      Json.parse? manifest = some (.list [.table [
        ("declarations", .list []),
        ("instructions", .list [
          .table [("index", .integer 0), ("opcode", .string "Custom"), ("speed", .null),
            ("zone", .null), ("text", .string "\n\t\tOpen;")],
          .table [("index", .integer 1), ("opcode", .string "Custom"), ("speed", .null),
            ("zone", .null), ("text", .string "\n\t\tClose;")]])]])) ∧
    (stopSource "").compile =
      (.error (.job (.insertion (.parameterListEmpty "items"))), (stopSource "").files) := by
  let set := Compiler.custom ["Open", "Close"]
  constructor
  · let job : Job := { blocks := [.custom ["Open", "Close"]], insertions := [⟨[1], ["Stop"]⟩] }
    let m : ProgramModule :=
      { instructions := ["\n\t\tOpen;", "\n\t\tStop;", "\n\t\tClose;"] }
    obtain ⟨s, c, hreads⟩ : ∃ s c, (stopSource "\"Stop\"").Reads s c job :=
      stopSource_reads (by decide +kernel)
    have hyields : job.Yields c m [set] := ⟨.cons rfl .nil, rfl, rfl, rfl, .cons rfl .nil⟩
    obtain ⟨-, -, -, htexts, done, left, places, result, after, hwritten, hcompile, hread⟩ :=
      (compile_all_or_nothing (stopSource "\"Stop\"")).2.1 s c job m [set] hreads hyields
    obtain ⟨_, hall⟩ := stopSource_writtenTo "\"Stop\"" m.render (manifestText [set])
    obtain ⟨rfl, rfl, rfl, -⟩ := hwritten.of_writtenTo hall
    have hfiles := hread (by decide)
    have hwords : ∀ s ∈ [set], s.instructions.length ≤ wordLimit := by decide
    exact ⟨_, after, m, manifestText [set], hcompile, rfl, hfiles _ List.mem_cons_self,
      hfiles _ (List.mem_cons_of_mem _ List.mem_cons_self), htexts.manifest hwords⟩
  · let job : Job := { blocks := [.custom ["Open", "Close"]], insertions := [⟨[1], []⟩] }
    obtain ⟨s, c, hreads⟩ : ∃ s c, (stopSource "").Reads s c job :=
      stopSource_reads (by decide +kernel)
    have hblocks : Block.CompileTo c job.blocks [set] := .cons rfl .nil
    have hfault : Job.InsertFault ([set].flatMap CompiledSet.instructionTexts) job.insertions
        (.failure (.parameterListEmpty "items")) := .here rfl
    exact (compile_all_or_nothing (stopSource "")).1 _ (.job hreads (.insertion hblocks hfault))

end Command

end RobotCell
