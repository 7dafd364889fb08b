import RobotCell.Controller.Workflow

/-!
# RobotCell.Proofs.Files

What a written file leaves in the directory tree.

A write puts a text at a place that is no directory (`Files.Writes`).  Whatever path led somewhere
leads there still (`walk_put`), so that the file is read back, also after another file is written
under another name (`Writes.readAny`, `Writes.readAny_other`).

The way to a node goes down through directories (`Files.Above`), so a path that leads to no
directory ends in a name: every file that can be read has one (`exists_fileName?_of_readAny`).
-/

namespace RobotCell

namespace Files

variable {files : Files} {place : List String} {node : FileNode}

/-! ## Nodes -/

theorem lookup_filter_of_ne {α β : Type} [BEq α] [LawfulBEq α] {a b : α} (h : a ≠ b)
    (entries : List (α × β)) :
    List.lookup a (entries.filter fun entry => entry.1 != b) = List.lookup a entries := by
  induction entries with
  | nil => rfl
  | cons entry entries ih =>
      by_cases hentry : entry.1 = b
      · have hne : (a == entry.1) = false := by simpa [hentry] using h
        rw [List.filter_cons_of_neg (by simp [hentry]), ih, List.lookup_cons, hne]
      · rw [List.filter_cons_of_pos (by simpa using hentry), List.lookup_cons, List.lookup_cons, ih]

/-- A place that is above the working directory is a directory, whatever is put there. -/
theorem node?_of_above (h : place <+: files.working) : files.node? place = some .directory :=
  if_pos h

/-- What is put in a place is found there. -/
theorem node?_put_self (h : files.node? place ≠ some .directory) :
    (files.put place node).node? place = some node := by
  have hfree : ¬place <+: files.working := fun habove => h (node?_of_above habove)
  simp [node?, put, hfree]

/-- Putting something in a place leaves the others as they are. -/
theorem node?_put_of_ne {other : List String} (h : other ≠ place) :
    (files.put place node).node? other = files.node? other := by
  have hne : (other == place) = false := by simpa using h
  simp only [node?, put, List.lookup_cons, hne, lookup_filter_of_ne h]

/-- What stood somewhere stands there still, or is replaced. -/
theorem isSome_node?_put {other : List String} (hfree : files.node? place ≠ some .directory)
    (h : (files.node? other).isSome) : ((files.put place node).node? other).isSome := by
  by_cases heq : other = place
  · simp [heq, node?_put_self hfree]
  · rwa [node?_put_of_ne heq]

/-! ## Walks -/

/-- A step is taken from a directory only. -/
theorem directory_of_step {dir next : List String} {name : String}
    (h : files.step dir name = .ok next) : files.node? dir = some .directory := by
  cases hdir : files.node? dir with
  | none => simp [step, hdir] at h
  | some there =>
      cases there with
      | directory => rfl
      | text | binary => simp [step, hdir] at h

/-- A step goes the same way when a node is set that was no directory. -/
theorem step_put {dir next : List String} {name : String}
    (hfree : files.node? place ≠ some .directory) (h : files.step dir name = .ok next) :
    (files.put place node).step dir name = .ok next := by
  have hdir := directory_of_step h
  have hne : dir ≠ place := by
    rintro rfl
    exact hfree hdir
  simp only [step, hdir] at h
  simp only [step, node?_put_of_ne hne, hdir]
  split at h
  · rwa [if_pos ‹_›]
  split at h
  · rwa [if_neg ‹_›, if_pos ‹_›]
  split at h
  · rw [if_neg ‹_›, if_neg ‹_›, if_pos ‹_›]
    cases hnext : files.node? (dir ++ [name]) with
    | none => simp [hnext] at h
    | some there =>
        obtain ⟨there', hthere'⟩ := Option.isSome_iff_exists.mp
          (@isSome_node?_put _ place node _ hfree (Option.isSome_of_eq_some hnext))
        simpa [hnext, hthere'] using h
  · cases h

/-- A walk is one step and the walk from there. -/
theorem walk_cons_ok_iff {start last : List String} {name : String} {rest : List String} :
    files.walk start (name :: rest) = .ok last ↔
      ∃ next, files.step start name = .ok next ∧ files.walk next rest = .ok last := by
  cases hstep : files.step start name with
  | error fault => simp [walk, hstep]
  | ok next => simp [walk, hstep]

/-- A walk is the same after something was put in a place that was no directory. -/
theorem walk_put {start last : List String} {steps : List String}
    (hfree : files.node? place ≠ some .directory) (h : files.walk start steps = .ok last) :
    (files.put place node).walk start steps = .ok last := by
  induction steps generalizing start with
  | nil => exact h
  | cons name rest ih =>
      obtain ⟨next, hstep, hrest⟩ := walk_cons_ok_iff.mp h
      exact walk_cons_ok_iff.mpr ⟨next, step_put hfree hstep, ih hrest⟩

/-- A walk over two paths stops between them. -/
theorem walk_append_ok_iff {start last : List String} {first rest : List String} :
    files.walk start (first ++ rest) = .ok last ↔
      ∃ middle, files.walk start first = .ok middle ∧ files.walk middle rest = .ok last := by
  induction first generalizing start with
  | nil => simp [walk]
  | cons name first ih =>
      rw [List.cons_append, walk_cons_ok_iff]
      constructor
      · rintro ⟨next, hstep, hmore⟩
        obtain ⟨middle, hfirst, hrest⟩ := ih.mp hmore
        exact ⟨middle, walk_cons_ok_iff.mpr ⟨next, hstep, hfirst⟩, hrest⟩
      · rintro ⟨middle, hfirst, hrest⟩
        obtain ⟨next, hstep, hmore⟩ := walk_cons_ok_iff.mp hfirst
        exact ⟨next, hstep, ih.mpr ⟨middle, hmore, hrest⟩⟩

/-! ## Paths -/

/-- A path whose last step is a name is the path of a file of that name. -/
theorem fileName?_of_steps {path name : String} {steps : List String}
    (h : pathSteps path = steps ++ [name]) (hdot : name ≠ ".") (hup : name ≠ "..") :
    fileName? path = some name := by
  have hparts : (path.splitOn "/").filter (· != "") = steps ++ [name] := by
    unfold pathSteps at h
    simp only at h
    split at h
    · obtain ⟨_, hlast⟩ := List.append_inj' h rfl
      exact absurd (List.cons.inj hlast).1.symm hdot
    · rwa [List.append_nil] at h
  have hfilter : ((path.splitOn "/").filter fun part => part != "" && part != ".") =
      (steps.filter (· != ".")) ++ [name] := by
    have hboth : ((path.splitOn "/").filter fun part => part != "" && part != ".") =
        ((path.splitOn "/").filter (· != "")).filter (· != ".") := by
      rw [List.filter_filter]
      exact List.filter_congr fun part _ => Bool.and_comm ..
    rw [hboth, hparts, List.filter_append, List.filter_cons_of_pos (by simpa using hdot),
      List.filter_nil]
  rw [fileName?, hfilter, List.getLast?_concat]
  exact if_neg hup

theorem pathSteps_empty : pathSteps "" = [] ++ ["."] := by
  unfold pathSteps String.splitOn
  rw [String.splitOnAux]
  rfl

/-- The places above a place are directories. -/
def Above (files : Files) (place : List String) : Prop :=
  ∀ dir, dir <+: place → dir ≠ place → files.node? dir = some .directory

/-- What is above a place is above the place over it. -/
theorem Above.dropLast (h : files.Above place) (hdir : files.node? place = some .directory) :
    files.node? place.dropLast = some .directory ∧ files.Above place.dropLast := by
  have hprefix : place.dropLast <+: place := List.dropLast_prefix place
  constructor
  · by_cases heq : place.dropLast = place
    · rw [heq]
      exact hdir
    · exact h _ hprefix heq
  · intro dir hdirs hne
    refine h dir (hdirs.trans hprefix) fun heq => hne ?_
    exact hdirs.eq_of_length_le (by rw [heq]; exact hprefix.length_le)

/-- A place in a directory has directories above it. -/
theorem Above.concat (h : files.Above place) (hdir : files.node? place = some .directory)
    (name : String) : files.Above (place ++ [name]) := by
  intro dir hdirs hne
  rcases List.prefix_concat_iff.mp hdirs with heq | hprefix
  · exact absurd heq hne
  · by_cases heq : dir = place
    · rw [heq]
      exact hdir
    · exact h dir hprefix heq

/-- A step leads to a directory, or it names what it leads to. -/
theorem Above.step {dir next : List String} {name : String} (h : files.Above dir)
    (hstep : files.step dir name = .ok next) :
    files.Above next ∧
      (files.node? next = some .directory ∨ name ≠ "." ∧ name ≠ "..") := by
  have hdir := directory_of_step hstep
  simp only [Files.step, hdir] at hstep
  split at hstep
  · obtain rfl := Except.ok.inj hstep
    exact ⟨h, .inl hdir⟩
  rename_i hdot
  split at hstep
  · obtain rfl := Except.ok.inj hstep
    obtain ⟨hparent, habove⟩ := h.dropLast hdir
    exact ⟨habove, .inl hparent⟩
  rename_i hup
  split at hstep
  · split at hstep
    · obtain rfl := Except.ok.inj hstep
      exact ⟨h.concat hdir name, .inr ⟨hdot, hup⟩⟩
    · cases hstep
  · cases hstep

/-- A walk stays among places with directories above them. -/
theorem Above.walk {dir last : List String} {steps : List String} (h : files.Above dir)
    (hwalk : files.walk dir steps = .ok last) : files.Above last := by
  induction steps generalizing dir with
  | nil =>
      obtain rfl := Except.ok.inj hwalk
      exact h
  | cons name rest ih =>
      obtain ⟨next, hstep, hrest⟩ := walk_cons_ok_iff.mp hwalk
      exact ih (h.step hstep).1 hrest

/-- Every path starts at a directory that is below directories only. -/
theorem start_above (files : Files) (path : String) : files.start path <+: files.working := by
  unfold start
  split
  · exact List.nil_prefix
  · exact List.prefix_rfl

/-- In a tree whose working directory is its root every path starts there. -/
theorem start_of_root (h : files.working = []) (path : String) : files.start path = [] :=
  List.prefix_nil.mp (h ▸ files.start_above path)

/-- The start of a path is the root or the working directory. -/
theorem above_start (files : Files) (path : String) : files.Above (files.start path) :=
  fun _ hdir _ => node?_of_above (hdir.trans (files.start_above path))

/-- What a path leads to is where its steps end. -/
theorem walk_of_resolve {path : String} (h : files.resolve path = .ok (place, node)) :
    files.walk (files.start path) (pathSteps path) = .ok place ∧ files.node? place = some node := by
  unfold resolve resolveFrom at h
  split at h
  · cases h
  split at h
  · cases h
  cases hwalk : files.walk (files.start path) (pathSteps path) with
  | error fault => simp [hwalk] at h
  | ok last =>
      cases hlast : files.node? last with
      | none => simp [hwalk, hlast] at h
      | some there =>
          simp only [hwalk, hlast] at h
          cases h
          exact ⟨rfl, hlast⟩

/-- A path that leads to no directory ends in a name. -/
theorem exists_fileName?_of_resolve {path : String} (h : files.resolve path = .ok (place, node))
    (hnode : node ≠ .directory) : ∃ name, fileName? path = some name := by
  obtain ⟨hwalk, hplace⟩ := walk_of_resolve h
  rcases List.eq_nil_or_concat (pathSteps path) with hnil | ⟨first, name, hsteps⟩
  · rw [hnil] at hwalk
    obtain rfl := Except.ok.inj hwalk
    have hdir := node?_of_above (files.start_above path)
    exact absurd (Option.some.inj (hplace.symm.trans hdir)) hnode
  · rw [List.concat_eq_append] at hsteps
    rw [hsteps] at hwalk
    obtain ⟨dir, hfirst, hlast⟩ := walk_append_ok_iff.mp hwalk
    obtain ⟨next, hstep, hend⟩ := walk_cons_ok_iff.mp hlast
    obtain rfl : next = place := Except.ok.inj hend
    rcases (((files.above_start path).walk hfirst).step hstep).2 with hdir | ⟨hdot, hup⟩
    · exact absurd (Option.some.inj (hplace.symm.trans hdir)) hnode
    · exact ⟨name, fileName?_of_steps hsteps hdot hup⟩

/-- A text file that can be read has a name. -/
theorem exists_fileName?_of_readAny {path content : String}
    (h : files.readAny path = .ok content) : ∃ name, fileName? path = some name := by
  unfold Files.readAny Files.read at h
  cases hresolve : files.resolve path with
  | error fault => cases fault <;> simp [hresolve] at h
  | ok found =>
      obtain ⟨place, there⟩ := found
      cases there with
      | text content => exact exists_fileName?_of_resolve hresolve (by simp)
      | directory | binary => simp [hresolve] at h

/-! ## Writing -/

/-- A write puts a text at a place that is no directory, under the last name of its path. -/
structure Writes (files : Files) (path content : String) (dir : List String) (name : String)
    (after : Files) : Prop where
  isPath : isPath path = true
  dot : name ≠ "."
  up : name ≠ ".."
  isName : isName name = true
  steps : ∃ steps, pathSteps path = steps ++ [name] ∧
    files.walk (files.start path) steps = .ok dir
  directory : files.node? dir = some .directory
  free : files.node? (dir ++ [name]) ≠ some .directory
  after_eq : after = files.put (dir ++ [name]) (.text content)

/-- A write that succeeds is to a name in a directory. -/
theorem writes_of_write {path content : String} {after : Files}
    (h : files.write path content = .ok after) :
    ∃ dir name, files.Writes path content dir name after := by
  unfold write at h
  simp only at h
  split at h
  · cases h
  rename_i name hlast
  split at h
  · cases h
  rename_i hname
  simp only [not_or, Bool.not_eq_true', Bool.not_eq_false] at hname
  obtain ⟨hdot, hup, hpath, hisName⟩ := hname
  split at h
  · cases h
  rename_i dir hwalk
  obtain ⟨steps, hsteps⟩ := List.getLast?_eq_some_iff.mp hlast
  rw [hsteps, List.dropLast_concat] at hwalk
  split at h
  · cases h
  · rename_i hdir hfree
    exact ⟨dir, name, hpath, hdot, hup, hisName, ⟨steps, hsteps, hwalk⟩, hdir, hfree,
      (Except.ok.inj h).symm⟩
  · cases h

namespace Writes

variable {after later : Files} {path content : String} {dir : List String} {name : String}

/-- Such a write succeeds. -/
theorem write_eq (h : files.Writes path content dir name after) :
    files.write path content = .ok after := by
  obtain ⟨steps, hsteps, hwalk⟩ := h.steps
  have hname : ¬(name = "." ∨ name = ".." ∨ (!Files.isPath path) = true ∨
      (!Files.isName name) = true) := by
    simp [h.dot, h.up, h.isPath, h.isName]
  rw [h.after_eq]
  simp only [write, hsteps, List.getLast?_concat, List.dropLast_concat, hwalk, if_neg hname,
    h.directory]
  split
  · rename_i hfree
    exact absurd hfree h.free
  · rfl
  · contradiction

/-- The name that is written is the last part of the path. -/
theorem fileName?_eq (h : files.Writes path content dir name after) :
    fileName? path = some name := by
  obtain ⟨steps, hsteps, _⟩ := h.steps
  exact fileName?_of_steps hsteps h.dot h.up

/-- A path and a text say where the text goes and what it leaves. -/
theorem unique {after' : Files} {dir' : List String} {name' : String}
    (h : files.Writes path content dir name after)
    (h' : files.Writes path content dir' name' after') :
    dir = dir' ∧ name = name' ∧ after = after' := by
  obtain ⟨steps, hsteps, hwalk⟩ := h.steps
  obtain ⟨steps', hsteps', hwalk'⟩ := h'.steps
  obtain ⟨rfl, hname⟩ := List.append_inj' (hsteps.symm.trans hsteps') rfl
  obtain rfl := Except.ok.inj (hwalk.symm.trans hwalk')
  obtain ⟨rfl, -⟩ := List.cons.inj hname
  exact ⟨rfl, rfl, h.after_eq.trans h'.after_eq.symm⟩

/-- The text stands at its place. -/
theorem node?_eq (h : files.Writes path content dir name after) :
    after.node? (dir ++ [name]) = some (.text content) := by
  rw [h.after_eq, node?_put_self h.free]

/-- A tree in which the walk of a write goes on, and that has its text, reads it. -/
theorem readAny_eq (h : files.Writes path content dir name after)
    (hwalk : ∀ steps, files.walk (files.start path) steps = .ok dir →
      later.walk (later.start path) steps = .ok dir)
    (hdir : later.node? dir = some .directory)
    (htext : later.node? (dir ++ [name]) = some (.text content)) :
    later.readAny path = .ok content := by
  obtain ⟨steps, hsteps, hlead⟩ := h.steps
  have hpath : path ≠ "" := by
    rintro rfl
    have hname := List.append_inj_right' (pathSteps_empty.symm.trans hsteps) rfl
    exact h.dot (List.cons.inj hname).1.symm
  have hstep : later.step dir name = .ok (dir ++ [name]) := by
    simp only [step, hdir, if_neg h.dot, if_neg h.up, h.isName, htext, if_true]
  have hplace : later.walk (later.start path) (pathSteps path) = .ok (dir ++ [name]) := by
    rw [hsteps]
    exact walk_append_ok_iff.mpr ⟨_, hwalk steps hlead, walk_cons_ok_iff.mpr ⟨_, hstep, rfl⟩⟩
  have hresolve : later.resolve path = .ok (dir ++ [name], .text content) := by
    simp only [resolve, resolveFrom, if_neg hpath, h.isPath, hplace, htext, Bool.not_true,
      Bool.false_eq_true, if_false]
  simp only [readAny, read, hresolve]

/-- A place in a directory is not the directory. -/
theorem dir_ne (dir : List String) (name : String) : dir ≠ dir ++ [name] := fun h => by
  have := congrArg List.length h
  simp at this

/-- A file is read as it was written. -/
theorem readAny (h : files.Writes path content dir name after) :
    after.readAny path = .ok content := by
  have htext := h.node?_eq
  obtain rfl := h.after_eq
  refine h.readAny_eq (fun steps => walk_put h.free) ?_ htext
  rw [node?_put_of_ne (dir_ne dir name), h.directory]

/-- A file is still read after one of another name was written. -/
theorem readAny_other (h : files.Writes path content dir name after) {path' content' name' : String}
    {dir' : List String} (hother : after.Writes path' content' dir' name' later) (hne : name ≠ name') :
    later.readAny path = .ok content := by
  have htext := h.node?_eq
  obtain rfl := h.after_eq
  obtain rfl := hother.after_eq
  have hapart : dir ++ [name] ≠ dir' ++ [name'] := fun heq =>
    hne (List.cons.inj (List.append_inj_right' heq rfl)).1
  have hdir : (files.put (dir ++ [name]) (.text content)).node? dir = some .directory := by
    rw [node?_put_of_ne (dir_ne dir name), h.directory]
  have hdir' : dir ≠ dir' ++ [name'] := fun heq => hother.free (heq ▸ hdir)
  refine h.readAny_eq (fun steps hsteps => walk_put hother.free (walk_put h.free hsteps)) ?_ ?_
  · rw [node?_put_of_ne hdir', hdir]
  · rw [node?_put_of_ne hapart, htext]

end Writes

/-! ## Writing in turn -/

/-- Texts written one after the other, with the places where they are put. -/
inductive WrittenTo : Files → List (String × String) → List (List String) → Files → Prop
  | nil {files : Files} : WrittenTo files [] [] files
  | cons {files next after : Files} {path content : String} {dir : List String} {name : String}
      {rest : List (String × String)} {places : List (List String)} :
      files.Writes path content dir name next → WrittenTo next rest places after →
        WrittenTo files ((path, content) :: rest) ((dir ++ [name]) :: places) after

namespace WrittenTo

variable {after : Files} {texts : List (String × String)} {places : List (List String)}

/-- Writing leaves the directories and the ways to them. -/
theorem keeps (h : files.WrittenTo texts places after) {dir : List String}
    (hdir : files.node? dir = some .directory) :
    after.node? dir = some .directory ∧ ∀ path steps,
      files.walk (files.start path) steps = .ok dir →
        after.walk (after.start path) steps = .ok dir := by
  induction h with
  | nil => exact ⟨hdir, fun path steps hsteps => hsteps⟩
  | @cons files next after path content dir' name rest places hwrites _ ih =>
      obtain rfl := hwrites.after_eq
      have hne : dir ≠ dir' ++ [name] := fun heq => hwrites.free (heq ▸ hdir)
      obtain ⟨hthere, hwalk⟩ := ih ((node?_put_of_ne hne).trans hdir)
      exact ⟨hthere, fun path steps hsteps => hwalk path steps (walk_put hwrites.free hsteps)⟩

/-- Writing leaves all other places as they are. -/
theorem node?_eq (h : files.WrittenTo texts places after) {place : List String}
    (hplace : place ∉ places) : after.node? place = files.node? place := by
  induction h with
  | nil => rfl
  | cons hwrites _ ih =>
      obtain rfl := hwrites.after_eq
      rw [List.mem_cons, not_or] at hplace
      rw [ih hplace.2, node?_put_of_ne hplace.1]

/-- Texts that went to different places are all read as they were written. -/
theorem readAny_eq (h : files.WrittenTo texts places after) (hplaces : places.Nodup) :
    ∀ text ∈ texts, after.readAny text.1 = .ok text.2 := by
  induction h with
  | nil => simp
  | @cons files next after path content dir name rest places hwrites hrest ih =>
      obtain ⟨hapart, hnodup⟩ := List.nodup_cons.mp hplaces
      have hdir : next.node? dir = some .directory := by
        rw [hwrites.after_eq, node?_put_of_ne (Writes.dir_ne dir name), hwrites.directory]
      have hlead : ∀ steps, files.walk (files.start path) steps = .ok dir →
          next.walk (next.start path) steps = .ok dir := fun steps hsteps => by
        rw [hwrites.after_eq]
        exact walk_put hwrites.free hsteps
      obtain ⟨hthere, hwalk⟩ := hrest.keeps hdir
      have hfirst : after.readAny path = .ok content :=
        hwrites.readAny_eq (fun steps hsteps => hwalk path steps (hlead steps hsteps)) hthere
          ((hrest.node?_eq hapart).trans hwrites.node?_eq)
      exact List.forall_mem_cons.mpr ⟨hfirst, ih hnodup⟩

end WrittenTo

/-- A file that can be read is there. -/
theorem require_of_readAny {path content : String} (h : files.readAny path = .ok content) :
    files.require path = .ok () := by
  unfold Files.readAny Files.read at h
  unfold require
  cases hresolve : files.resolve path with
  | ok found => rfl
  | error fault => cases fault <;> simp [hresolve] at h

end Files

/-- **The files that a program was written to are read back**, when their names differ. -/
theorem ProgramFiles.readAny_of_write {p : ProgramFiles} {text : String} {files after : Files}
    (hnames : fileName? p.program ≠ fileName? p.module)
    (h : p.write text files = (.ok (), after)) :
    ∃ file file', fileName? p.program = some file ∧ fileName? p.module = some file' ∧
      after.readAny p.program = .ok (programDescriptor [file']) ∧
      after.readAny p.module = .ok text := by
  unfold write at h
  split at h
  · cases h
  rename_i file' hfile'
  split at h
  · cases h
  rename_i middle hmodule
  split at h
  · cases h
  rename_i hprogram
  cases h
  obtain ⟨dir, name, hwrites⟩ := Files.writes_of_write hmodule
  obtain ⟨dir', name', hwrites'⟩ := Files.writes_of_write hprogram
  refine ⟨name', file', hwrites'.fileName?_eq, hfile', hwrites'.readAny, ?_⟩
  refine hwrites.readAny_other hwrites' ?_
  rintro rfl
  exact hnames (hwrites'.fileName?_eq.trans hwrites.fileName?_eq.symm)

end RobotCell
