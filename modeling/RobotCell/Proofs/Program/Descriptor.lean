import RobotCell.Proofs.Command.Compile
import RobotCell.Proofs.Program.Xml
import RobotCell.Proofs.Workflow.Deploy

/-!
# RobotCell.Proofs.Program.Descriptor

What a reader of XML finds in a program descriptor.

The names of module files stand in the descriptor as they are.  Character data without carriage
returns is read as itself, and the descriptor then has one tree, which lists the names
(`document_iff`).  Every other name is lost: a piece of markup is longer than what it stands for,
and as no name has a slash, the slashes of the descriptor are just enough for its elements, so that
no piece reaches beyond the name in which it begins (`isVerbatim_of_content`).
-/

namespace RobotCell

open Xml

/-! ## Names -/

/-- The names that a directory can hold. -/
def IsFileName (file : String) : Prop := '/' ∉ file.toList ∧ '\x00' ∉ file.toList

/-- Names that are read as they are written: character data with line ends that stay. -/
def IsVerbatim (file : String) : Prop := IsCharData file.toList ∧ '\r' ∉ file.toList

/-- The name of the root. -/
def programTag : List Char := "Program".toList

/-- The name of the elements of module files. -/
def moduleTag : List Char := "Module".toList

/-- The element of a module file. -/
def moduleNode (file : String) : Node := .element moduleTag (file.toList.map .char)

/-- A node that is an element. -/
def Xml.Node.isElement : Node → Bool
  | .char _ => false
  | .element .. => true

/-- A root that is a program with the module files in their order. -/
def Lists (root : Node) (files : List String) : Prop :=
  ∃ children, root = .element programTag children ∧
    children.filter Node.isElement = files.map moduleNode

/-- The nodes of module files, one on a line. -/
def entryNodes (files : List String) : List Node :=
  files.flatMap fun file => [.char '\t', moduleNode file, .char '\n']

/-- The tree of a descriptor. -/
def descriptorTree (files : List String) : Node :=
  .element programTag (.char '\n' :: entryNodes files)

theorem lists_descriptorTree (files : List String) : Lists (descriptorTree files) files := by
  refine ⟨_, rfl, ?_⟩
  show (entryNodes files).filter Node.isElement = _
  induction files with
  | nil => rfl
  | cons file files ih => exact congrArg (moduleNode file :: ·) ih

/-- Nothing but the module files are elements. -/
theorem sizes_of_filter {nodes : List Node} {files : List String}
    (h : nodes.filter Node.isElement = files.map moduleNode) : Node.sizes nodes = files.length := by
  induction nodes generalizing files with
  | nil => cases files with
    | nil => rfl
    | cons => cases h
  | cons node nodes ih =>
      cases node with
      | char c => simpa [Node.sizes, Node.size] using ih h
      | element name children =>
          obtain ⟨file, files, rfl, hnode, hnodes⟩ := List.map_eq_cons_iff.mp h.symm
          cases hnode
          simp only [Node.sizes, Node.size, Node.sizes_chars, ih hnodes.symm, List.length_cons]
          omega

/-! ## Text -/

/-- The entry of a module file, and what comes after it. -/
def entryText (file rest : List Char) : List Char :=
  '\t' :: '<' :: (moduleTag ++ '>' :: (file ++ '<' :: '/' :: (moduleTag ++ '>' :: '\n' :: rest)))

/-- The information in the declaration of a descriptor. -/
def descriptorInfo : List Char := " version=\"1.0\" encoding=\"ISO-8859-1\" ".toList

/-- The end of a descriptor. -/
def descriptorEnd : List Char := '<' :: '/' :: (programTag ++ ['>', '\n'])

/-- A descriptor of names that are given by their characters. -/
def descriptorText (files : List (List Char)) : List Char :=
  "<?xml".toList ++ (descriptorInfo ++ '?' :: '>' :: '\n' :: '<' :: (programTag ++
    '>' :: '\n' :: files.foldr entryText descriptorEnd))

theorem toList_descriptorEntry (file : String) (rest : List Char) :
    (descriptorEntry file).toList ++ rest = entryText file.toList rest := by
  have hopening : "\t<Module>".toList = '\t' :: '<' :: (moduleTag ++ ['>']) := by decide
  have hclosing : "</Module>\n".toList = '<' :: '/' :: (moduleTag ++ ['>', '\n']) := by decide
  rw [descriptorEntry, String.toList_append, String.toList_append, hopening, hclosing]
  simp only [entryText, List.cons_append, List.append_assoc, List.nil_append]

theorem toList_programDescriptor (files : List String) :
    (programDescriptor files).toList = descriptorText (files.map String.toList) := by
  have hstart : "<?xml version=\"1.0\" encoding=\"ISO-8859-1\" ?>\n<Program>\n".toList =
      "<?xml".toList ++ (descriptorInfo ++ '?' :: '>' :: '\n' :: '<' :: (programTag ++
        ['>', '\n'])) := by decide +kernel
  have hentries : (String.join (files.map descriptorEntry)).toList ++ "</Program>\n".toList =
      (files.map String.toList).foldr entryText descriptorEnd := by
    induction files with
    | nil => show "</Program>\n".toList = descriptorEnd; decide
    | cons file files ih =>
        rw [List.map_cons, String.join_cons, String.toList_append, List.append_assoc, ih,
          toList_descriptorEntry, List.map_cons, List.foldr_cons]
  have happend : ∀ a b c : String, (a ++ b ++ c).toList = a.toList ++ (b.toList ++ c.toList) :=
    fun a b c => by rw [String.toList_append, String.toList_append, List.append_assoc]
  have hassoc : ∀ as bs cs ds : List Char,
      as ++ (bs ++ '?' :: '>' :: '\n' :: '<' :: (cs ++ ['>', '\n'])) ++ ds =
        as ++ (bs ++ '?' :: '>' :: '\n' :: '<' :: (cs ++ '>' :: '\n' :: ds)) := by simp
  exact (happend _ _ _).trans ((congrArg₂ (· ++ ·) hstart hentries).trans (hassoc _ _ _ _))

theorem foldr_entryText_append (files : List (List Char)) (xs ys : List Char) :
    files.foldr entryText (xs ++ ys) = files.foldr entryText xs ++ ys := by
  induction files with
  | nil => rfl
  | cons file files ih => simp [entryText, ih]

/-- Line ends are normalized in each name on its own. -/
theorem normalizeLineEnds_descriptorText (files : List (List Char)) :
    normalizeLineEnds (descriptorText files) =
      descriptorText (files.map normalizeLineEnds) := by
  have hentries : ∀ files : List (List Char),
      normalizeLineEnds (files.foldr entryText descriptorEnd) =
        (files.map normalizeLineEnds).foldr entryText descriptorEnd := by
    intro files
    induction files with
    | nil => exact normalizeLineEnds_of_notMem (by decide)
    | cons file files ih =>
        have hopening : '\r' ∉ '\t' :: '<' :: (moduleTag ++ ['>']) := by decide
        have hclosing : '\r' ∉ '<' :: '/' :: (moduleTag ++ ['>', '\n']) := by decide
        have hentry : ∀ file rest, entryText file rest = ('\t' :: '<' :: (moduleTag ++ ['>'])) ++
            (file ++ (('<' :: '/' :: (moduleTag ++ ['>', '\n'])) ++ rest)) := by
          simp [entryText]
        rw [List.foldr_cons, List.map_cons, List.foldr_cons, hentry, hentry,
          normalizeLineEnds_append hopening,
          normalizeLineEnds_append_of_head file (fun h => by cases h),
          normalizeLineEnds_append hclosing, ih]
  have hstart : '\r' ∉ "<?xml".toList := by decide
  have hinfo : '\r' ∉ descriptorInfo := by decide
  have hroot : '\r' ∉ '?' :: '>' :: '\n' :: '<' :: (programTag ++ ['>', '\n']) := by decide
  have htext : ∀ rest, '?' :: '>' :: '\n' :: '<' :: (programTag ++ '>' :: '\n' :: rest) =
      ('?' :: '>' :: '\n' :: '<' :: (programTag ++ ['>', '\n'])) ++ rest := by simp
  rw [descriptorText, descriptorText, htext (files.foldr _ _), htext (List.foldr _ _ (files.map _)),
    normalizeLineEnds_append hstart, normalizeLineEnds_append hinfo,
    normalizeLineEnds_append hroot, hentries]

/-- No two lists of names without slashes have the same descriptor. -/
theorem foldr_entryText_inj {files files' : List (List Char)} (hfiles : ∀ file ∈ files, '/' ∉ file)
    (hfiles' : ∀ file ∈ files', '/' ∉ file)
    (h : files.foldr entryText descriptorEnd = files'.foldr entryText descriptorEnd) :
    files = files' := by
  induction files generalizing files' with
  | nil =>
      cases files' with
      | nil => rfl
      | cons => cases (List.cons.inj h).1
  | cons file files ih =>
      cases files' with
      | nil => cases (List.cons.inj h).1
      | cons file' files' =>
          obtain ⟨hfile, hfiles⟩ := List.forall_mem_cons.mp hfiles
          obtain ⟨hfile', hfiles'⟩ := List.forall_mem_cons.mp hfiles'
          simp only [List.foldr_cons, entryText, List.cons.injEq, List.append_cancel_left_eq,
            true_and] at h
          -- a name ends before the first slash
          obtain ⟨hname, hrest⟩ := closing_inj_of_count h
            ((List.count_eq_zero.mpr hfile).trans (List.count_eq_zero.mpr hfile').symm)
          simp only [List.append_cancel_left_eq, List.cons.injEq, true_and] at hrest
          rw [hname, ih hfiles hfiles' hrest]

/-! ## Reading -/

theorem isName_programTag : IsName programTag := by decide

theorem isName_moduleTag : IsName moduleTag := by decide

/-- Character data in entries is read as the nodes of the module files. -/
theorem content_entryNodes {files : List String}
    (h : ∀ file ∈ files, IsCharData file.toList) :
    Content ((files.map String.toList).foldr entryText []) (entryNodes files) := by
  induction files with
  | nil => exact .nil
  | cons file files ih =>
      obtain ⟨hfile, hfiles⟩ := List.forall_mem_cons.mp h
      have hrest : Content ('\n' :: (files.map String.toList).foldr entryText [])
          (.char '\n' :: entryNodes files) := (ih hfiles).cons (by decide) (by decide)
      have helement := Content.element (.of_isName isName_moduleTag)
        (Content.of_isCharData hfile) (.of_isName isName_moduleTag) hrest
      have hentry := helement.cons (c := '\t') (by decide) (by decide)
      simpa [entryText, entryNodes, moduleNode] using hentry

/-- What is read of an entry: a tab, and an element that is opened as the entry has it. -/
theorem Xml.Content.of_entry {text file rest suffix : List Char} {nodes : List Node}
    (h : Content text nodes) (hsuffix : IsContentEnd suffix)
    (heq : text ++ suffix = entryText file rest) :
    ∃ inner closing cs children nodes',
      file ++ '<' :: '/' :: (moduleTag ++ '>' :: '\n' :: rest) =
          inner ++ (closing ++ (cs ++ suffix)) ∧
        nodes = .char '\t' :: .element moduleTag children :: nodes' ∧ Content inner children ∧
        EndTag closing moduleTag ∧ Content cs nodes' := by
  obtain ⟨more, nodes, rfl, rfl, hmore, htag⟩ := h.of_append_char (by decide) hsuffix heq
  obtain ⟨inner, closing, cs, children, nodes', hrest, rfl, hinner, hclosing, hcs⟩ :=
    hmore.of_tag isName_moduleTag hsuffix htag
  exact ⟨inner, closing, cs, children, nodes', hrest, rfl, hinner, hclosing, hcs⟩

/-- Character data in entries is read in no other way. -/
theorem nodes_of_content {files : List String} (hfiles : ∀ file ∈ files, IsCharData file.toList)
    {text more more' : List Char} {nodes : List Node} (h : Content text nodes)
    (heq : text ++ '<' :: '/' :: more =
      (files.map String.toList).foldr entryText ('<' :: '/' :: more')) :
    nodes = entryNodes files := by
  induction files generalizing text nodes with
  | nil => exact (h.eq_nil_of_closing heq).2
  | cons file files ih =>
      obtain ⟨hfile, hfiles⟩ := List.forall_mem_cons.mp hfiles
      obtain ⟨inner, closing, cs, children, nodes', hentry, rfl, hinner, hclosing, hcs⟩ :=
        h.of_entry (.inr ⟨more, rfl⟩) heq
      obtain ⟨tail, rfl⟩ := hclosing.exists_cons
      obtain ⟨rfl, rfl⟩ := hinner.eq_of_isCharData hfile hentry.symm
      have hnext := hclosing.of_append (List.append_cancel_left hentry).symm
      obtain ⟨more, nodes, rfl, rfl, hmore, hlines⟩ :=
        hcs.of_append_char (by decide) (.inr ⟨_, rfl⟩) hnext
      rw [ih hfiles hmore hlines]
      rfl

/-! ## Slashes -/

theorem count_foldr_entryText {files : List (List Char)} (h : ∀ file ∈ files, '/' ∉ file)
    (rest : List Char) :
    (files.foldr entryText rest).count '/' = files.length + rest.count '/' := by
  have htag : moduleTag.count '/' = 0 := by decide
  induction files with
  | nil => simp
  | cons file files ih =>
      obtain ⟨hfile, hfiles⟩ := List.forall_mem_cons.mp h
      simp [entryText, ih hfiles, List.count_eq_zero.mpr hfile, htag]
      omega

/-- The name of a file, as it is after the line ends are normalized. -/
def normalName (file : String) : List Char := normalizeLineEnds file.toList

theorem IsFileName.notMem {file : String} (h : IsFileName file) : '/' ∉ normalName file :=
  fun hslash => h.1 (mem_of_mem_normalizeLineEnds (by decide) hslash)

/-- Names that are found in the elements of their entries are verbatim. -/
theorem isVerbatim_of_content {files : List String} (hfiles : ∀ file ∈ files, IsFileName file)
    {nodes : List Node} (h : Content ((files.map normalName).foldr entryText []) nodes)
    (hnodes : nodes.filter Node.isElement = files.map moduleNode) :
    ∀ file ∈ files, IsVerbatim file := by
  induction files generalizing nodes with
  | nil => simp
  | cons file files ih =>
      obtain ⟨hfile, hfiles⟩ := List.forall_mem_cons.mp hfiles
      have hrests : ∀ name ∈ files.map normalName, '/' ∉ name := by
        simpa using fun file h => (hfiles file h).notMem
      obtain ⟨inner, closing, cs, children, nodes', hentry, rfl, hinner, hclosing, hcs⟩ :=
        h.of_entry (.inl rfl) (List.append_nil _)
      obtain ⟨hnode, hnodes'⟩ := List.cons.inj hnodes
      obtain rfl := (Node.element.inj hnode).2
      obtain ⟨tail, rfl⟩ := hclosing.exists_cons
      -- the other elements need all the other slashes
      have hinner' : inner.count '/' = 0 := by
        have hcount := congrArg (List.count '/') hentry
        have hsizes := hcs.sizes_le_count
        have htag : moduleTag.count '/' = 0 := by decide
        rw [sizes_of_filter hnodes'] at hsizes
        simp [count_foldr_entryText hrests, List.count_eq_zero.mpr hfile.notMem, htag] at hcount
        omega
      obtain ⟨rfl, htail⟩ := closing_inj_of_count hentry
        ((List.count_eq_zero.mpr hfile.notMem).trans hinner'.symm)
      obtain ⟨hname, hdata⟩ := hinner.eq_of_length_le (length_normalizeLineEnds_le _)
      refine List.forall_mem_cons.mpr ⟨?_, ?_⟩
      · refine ⟨hname ▸ hdata, normalizeLineEnds_eq_iff.mp hname.symm⟩
      · have hnext := hclosing.of_append (List.append_cancel_left hentry).symm
        rw [List.append_nil] at hnext
        obtain ⟨nodes', rfl, hcs'⟩ := (hnext ▸ hcs).of_char (by decide)
        exact ih hfiles hcs' hnodes'

/-! ## Documents -/

/-- A descriptor is a document of the names that it is read as. -/
theorem exists_content_of_document {files : List String} {root : Node}
    (h : Document (programDescriptor files).toList root) :
    ∃ inner closing after children,
      '\n' :: (files.map normalName).foldr entryText descriptorEnd =
          inner ++ (closing ++ after) ∧
        root = .element programTag children ∧ Content inner children ∧
        EndTag closing programTag := by
  have htext : normalizeLineEnds (programDescriptor files).toList =
      "<?xml".toList ++ (descriptorInfo ++ '?' :: '>' :: '\n' :: '<' :: (programTag ++ '>' ::
        '\n' :: (files.map normalName).foldr entryText descriptorEnd)) := by
    rw [toList_programDescriptor, normalizeLineEnds_descriptorText, List.map_map]
    rfl
  exact h.exists_content htext (by rintro c ⟨⟩; decide) (by decide) isName_programTag

theorem normalName_eq {file : String} (h : IsVerbatim file) : normalName file = file.toList :=
  normalizeLineEnds_of_notMem h.2

theorem declaration_descriptor : Xml.Declaration ("<?xml".toList ++ (descriptorInfo ++ ['?', '>'])) := by
  have hname : IsName "version".toList := by decide
  have hname' : IsName "encoding".toList := by decide
  have hversion : IsVersion "1.0".toList := ⟨['0'], by decide, by decide, List.all_eq_true.mp (by decide)⟩
  have hencoding : IsEncoding "ISO-8859-1".toList := ⟨⟨'I', by decide, by decide⟩, List.all_eq_true.mp (by decide)⟩
  have hspaces : IsSpaces [' '] := by simp [IsSpaces, isSpace]
  have h := Xml.Declaration.intro (.of_isName hname (by decide)) hversion
    (.inr ⟨_, .of_isName hname' (by decide), hencoding⟩) (.inl rfl) hspaces
  have htext : descriptorInfo =
      ' ' :: ("version".toList ++ '=' :: '\x22' :: ("1.0".toList ++ ['\x22'])) ++
        (' ' :: ("encoding".toList ++ '=' :: '\x22' :: ("ISO-8859-1".toList ++ ['\x22'])) ++
          ([] ++ [' '])) := by decide
  rw [htext]
  exact h

/-- A descriptor of names that are verbatim is a document, of its own tree only. -/
theorem document_iff {files : List String} (hfiles : ∀ file ∈ files, IsVerbatim file)
    {root : Node} :
    Document (programDescriptor files).toList root ↔ root = descriptorTree files := by
  have hdata : ∀ file ∈ files, IsCharData file.toList := fun file h => (hfiles file h).1
  have hnames : files.map normalName = files.map String.toList :=
    List.map_congr_left fun file h => normalName_eq (hfiles file h)
  constructor
  · intro h
    obtain ⟨inner, closing, after, children, htext, rfl, hinner, hclosing⟩ :=
      exists_content_of_document h
    obtain ⟨tail, rfl⟩ := hclosing.exists_cons
    rw [hnames] at htext
    obtain ⟨more, nodes, rfl, rfl, hmore, hentries⟩ :=
      hinner.of_append_char (by decide) (.inr ⟨_, rfl⟩) htext.symm
    rw [nodes_of_content hdata hmore hentries]
    rfl
  · rintro rfl
    have hcontent := (content_entryNodes hdata).cons (c := '\n') (by decide) (by decide)
    have helement := Element.tagged (.of_isName isName_programTag) hcontent
      (.of_isName isName_programTag)
    have hafter : Misc ['\n'] := .space (by decide) .nil
    refine ⟨_, ['\n'], _, ['\n'], ?_, .inr declaration_descriptor, hafter, helement, hafter⟩
    have hend : descriptorEnd = [] ++ ('<' :: '/' :: (programTag ++ ['>', '\n'])) := rfl
    rw [toList_programDescriptor, normalizeLineEnds_descriptorText, List.map_map,
      show normalizeLineEnds ∘ String.toList = normalName from rfl, hnames, descriptorText, hend,
      foldr_entryText_append]
    simp

/-- Names that a descriptor lists are verbatim. -/
theorem isVerbatim_of_document {files : List String} (hfiles : ∀ file ∈ files, IsFileName file)
    {root : Node} (h : Document (programDescriptor files).toList root) (hroot : Lists root files) :
    ∀ file ∈ files, IsVerbatim file := by
  obtain ⟨inner, closing, after, children, htext, rfl, hinner, hclosing⟩ :=
    exists_content_of_document h
  obtain ⟨children', hchildren, hnodes⟩ := hroot
  obtain rfl := (Node.element.inj hchildren).2
  obtain ⟨tail, rfl⟩ := hclosing.exists_cons
  have hnames : ∀ name ∈ files.map normalName, '/' ∉ name := by
    simpa using fun file h => (hfiles file h).notMem
  -- there are as many slashes as elements, the root with the rest
  have hcount : ('\n' :: (files.map normalName).foldr entryText []).count '/' =
      inner.count '/' := by
    have hend : descriptorEnd.count '/' = 1 := by decide
    have hsizes := hinner.sizes_le_count
    have htotal := congrArg (List.count '/') htext
    rw [sizes_of_filter hnodes] at hsizes
    simp [count_foldr_entryText hnames, hend] at htotal ⊢
    omega
  have hend : descriptorEnd = [] ++ descriptorEnd := rfl
  rw [hend, foldr_entryText_append, ← List.cons_append] at htext
  obtain ⟨rfl, -⟩ := closing_inj_of_count htext hcount
  obtain ⟨nodes, rfl, hentries⟩ := hinner.of_char (by decide)
  exact isVerbatim_of_content hfiles hentries hnodes

theorem programDescriptor_inj {files files' : List String} (hfiles : ∀ file ∈ files, IsFileName file)
    (hfiles' : ∀ file ∈ files', IsFileName file)
    (h : programDescriptor files = programDescriptor files') : files = files' := by
  have htext := congrArg String.toList h
  rw [toList_programDescriptor, toList_programDescriptor] at htext
  simp only [descriptorText, List.append_cancel_left_eq, List.cons.injEq, true_and] at htext
  have hslash : ∀ {files : List String}, (∀ file ∈ files, IsFileName file) →
      ∀ name ∈ files.map String.toList, '/' ∉ name := fun h => by
    simpa using fun file hfile => (h file hfile).1
  exact List.map_injective_iff.mpr (fun _ _ => String.toList_inj.mp)
    (foldr_entryText_inj (hslash hfiles) (hslash hfiles') htext)

/-! ## Writing -/

/-- The descriptor of program files names the file that the module was written to. -/
theorem ProgramFiles.writes_of_write {p : ProgramFiles} {text : String} {files after : Files}
    (h : p.write text files = (.ok (), after)) :
    ∃ dir name next dir' name', files.Writes p.module text dir name next ∧
      next.Writes p.program (programDescriptor [name]) dir' name' after := by
  unfold write at h
  split at h
  · cases h
  rename_i file hfile
  split at h
  · cases h
  rename_i next hmodule
  split at h
  · cases h
  rename_i hprogram
  cases h
  obtain ⟨dir, name, hwrites⟩ := Files.writes_of_write hmodule
  obtain ⟨dir', name', hwrites'⟩ := Files.writes_of_write hprogram
  obtain rfl := Option.some.inj (hfile.symm.trans hwrites.fileName?_eq)
  exact ⟨dir, _, next, dir', name', hwrites, hwrites'⟩

/-- The descriptor of a compilation names the file that the module was written to. -/
theorem Command.Source.writes_of_compile {src : Source} {path : String} {report : Report}
    {after : Files} (hpath : src.paths.descriptor = some path)
    (h : src.compile = (.ok report, after)) :
    ∃ text dir name next dir' name' last manifest places,
      src.files.Writes src.paths.output text dir name next ∧
      next.Writes path (programDescriptor [name]) dir' name' last ∧
      last.WrittenTo (src.paths.manifest.toList.map fun path => (path, manifest)) places after := by
  rcases src.refuses_or_reads with ⟨fault, hrefuses⟩ | ⟨s, c, job, m, sets, hreads, hyields⟩
  · cases hrefuses.compile_eq.symm.trans h
  obtain ⟨done, left, places, houtputs, hwritten, hends⟩ :=
    runOn_writeAll (outputs src.paths m sets) src.files
  rw [hreads.compile_eq hyields] at h
  rcases hrun : runOn (writeAll (outputs src.paths m sets)) src.files with ⟨_ | _, last⟩
  · rw [hrun] at h
    cases (Prod.mk.inj h).1
  rw [hrun] at h hwritten hends
  obtain rfl := (Prod.mk.inj h).2
  cases hends
  have htexts : done.map (fun o => (o.path, o.text)) = (src.paths.output, m.render) ::
      (path, programDescriptor (fileName? src.paths.output).toList) ::
        src.paths.manifest.toList.map fun path => (path, manifestText sets) := by
    rw [List.append_nil] at houtputs
    simp [← houtputs, outputs, hpath]
  rw [htexts] at hwritten
  cases hwritten with
  | cons hmodule hrest =>
      cases hrest with
      | cons hdescriptor hrest =>
          rw [hmodule.fileName?_eq] at hdescriptor
          exact ⟨_, _, _, _, _, _, _, _, _, hmodule, hdescriptor, hrest⟩

/-! ## Main result -/

/-- **A descriptor lists exactly the names that are verbatim.**

The descriptor of names that a directory can hold is a document whose root lists these names if and
only if each of them is verbatim, and then it has this one tree.  Different lists have different
descriptors in any case.  What is written beside a module, by a program or by a compilation, is the
descriptor of the name under which the module was written. -/
theorem descriptor_lists_iff {files : List String} (hfiles : ∀ file ∈ files, IsFileName file) :
    ((∃ root, Document (programDescriptor files).toList root ∧ Lists root files) ↔
      ∀ file ∈ files, IsVerbatim file) ∧
    ((∀ file ∈ files, IsVerbatim file) → ∀ root,
      Document (programDescriptor files).toList root ↔ root = descriptorTree files) ∧
    (∀ files' : List String, (∀ file ∈ files', IsFileName file) →
      programDescriptor files = programDescriptor files' → files = files') ∧
    (∀ (p : ProgramFiles) (text : String) (before after : Files),
      p.write text before = (.ok (), after) →
        ∃ dir name next dir' name', before.Writes p.module text dir name next ∧
          next.Writes p.program (programDescriptor [name]) dir' name' after) ∧
    ∀ (src : Command.Source) (path : String) (report : Command.Report) (after : Files),
      src.paths.descriptor = some path → src.compile = (.ok report, after) →
        ∃ text dir name next dir' name' last manifest places,
          src.files.Writes src.paths.output text dir name next ∧
          next.Writes path (programDescriptor [name]) dir' name' last ∧
          last.WrittenTo (src.paths.manifest.toList.map fun path => (path, manifest)) places
            after := by
  refine ⟨⟨?_, fun h => ?_⟩, fun h root => document_iff h,
    fun files' hfiles' => programDescriptor_inj hfiles hfiles',
    fun p text before after => ProgramFiles.writes_of_write,
    fun src path report after => Command.Source.writes_of_compile⟩
  · rintro ⟨root, hdocument, hroot⟩
    exact isVerbatim_of_document hfiles hdocument hroot
  · exact ⟨descriptorTree files, (document_iff h).mpr rfl, lists_descriptorTree files⟩

/-- A compilation in the working directory with a descriptor beside the module. -/
theorem exists_compile_descriptor :
    ∃ src report after, src.paths.output = "o" ∧ src.paths.descriptor = some "d" ∧
      src.paths.manifest = none ∧ Command.Source.compile src = (.ok report, after) := by
  let job : Job := { blocks := [.custom ["Open", "Close"]], insertions := [⟨[1], ["Stop"]⟩] }
  let m : ProgramModule := { instructions := ["\n\t\tOpen;", "\n\t\tStop;", "\n\t\tClose;"] }
  let set := Compiler.custom ["Open", "Close"]
  let src : Command.Source :=
    { Command.stopSource "\"Stop\"" with
      paths := { job := "j", output := "o", descriptor := some "d" } }
  obtain ⟨s, c, hstop⟩ : ∃ s c, (Command.stopSource "\"Stop\"").Reads s c job :=
    Command.stopSource_reads (by decide +kernel)
  have hreads : src.Reads s c job := ⟨hstop.settings, hstop.compiler, hstop.job⟩
  have hyields : job.Yields c m [set] := ⟨.cons rfl .nil, rfl, rfl, rfl, .cons rfl .nil⟩
  have hsteps : pathSteps "d" = [] ++ ["d"] := by
    unfold pathSteps String.splitOn
    rw [String.splitOnAux, String.splitOnAux]
    rfl
  have hmodule := Command.stopSource_writes "\"Stop\"" m.render
  have hdescriptor (text : String) : ∃ last,
      ((Command.stopSource "\"Stop\"").files.put ["w", "o"] (.text m.render)).Writes "d" text
        ["w"] "d" last := by
    refine ⟨_, by decide +kernel, by decide, by decide, by decide, ⟨[], hsteps, ?_⟩, rfl,
      (fun h => by cases h), rfl⟩
    have hrelative : Files.isAbsolute "d" = false := by decide +kernel
    simp only [Files.start, hrelative]
    rfl
  obtain ⟨last, hlast⟩ := hdescriptor (programDescriptor (fileName? "o").toList)
  obtain ⟨done, left, places, hwritten⟩ :=
    Command.runOn_writeAll (Command.outputs src.paths m [set]) src.files
  have hall : src.files.WrittenTo
      ((Command.outputs src.paths m [set]).map fun o => (o.path, o.text)) _ last :=
    .cons hmodule (.cons hlast .nil)
  obtain ⟨-, hresult, -, hafter⟩ := hwritten.of_writtenTo hall
  refine ⟨src, src.report s, last, rfl, rfl, rfl, ?_⟩
  rw [hreads.compile_eq hyields, ← hafter]
  exact Prod.ext (congrArg (Except.map fun _ => src.report s) hresult) rfl

/-- The names of a module and of a compilation in the working directory are listed. -/
theorem descriptor_lists_iff_letters :
    (∃ root, Document (programDescriptor ["M.mod"]).toList root ∧ Lists root ["M.mod"]) ∧
    (∀ root, Document (programDescriptor ["M.mod"]).toList root ↔ root = descriptorTree ["M.mod"]) ∧
    programDescriptor ["M.mod"] ≠ programDescriptor ["N.mod"] ∧
    (∃ after, (⟨"p", "m"⟩ : ProgramFiles).write "" {} = (.ok (), after) ∧
      after.readAny "p" = .ok (programDescriptor ["m"])) ∧
    ∃ src report after, src.paths.output = "o" ∧ Command.Source.compile src = (.ok report, after) ∧
      after.readAny "d" = .ok (programDescriptor ["o"]) := by
  have hfile : ∀ file ∈ ["M.mod"], IsFileName file := by simp [IsFileName]
  have hother : ∀ file ∈ ["N.mod"], IsFileName file := by simp [IsFileName]
  have hverbatim : ∀ file ∈ ["M.mod"], IsVerbatim file := by
    simp only [List.mem_singleton, forall_eq]
    exact ⟨by decide, by decide⟩
  obtain ⟨hiff, htree, hinj, hwrite, hcompile⟩ := descriptor_lists_iff hfile
  refine ⟨hiff.mpr hverbatim, htree hverbatim, fun h => ?_, ?_, ?_⟩
  · exact absurd (List.cons.inj (hinj ["N.mod"] hother h)).1 (by decide)
  · obtain ⟨after, hstored, -, hname⟩ := ProgramFiles.exists_write ""
    obtain ⟨_, _, _, _, _, hmodule, hprogram⟩ := hwrite _ _ _ _ hstored
    obtain rfl := Option.some.inj (hname.symm.trans hmodule.fileName?_eq)
    exact ⟨after, hstored, hprogram.readAny⟩
  · obtain ⟨src, report, after, houtput, hpath, hmanifest, hrun⟩ := exists_compile_descriptor
    obtain ⟨_, _, name, _, _, _, _, _, _, hmodule, hdescriptor, hrest⟩ :=
      hcompile src "d" report after hpath hrun
    have hsteps : pathSteps "o" = [] ++ ["o"] := Command.pathSteps_letters.2.2
    have hname : fileName? "o" = some "o" :=
      Files.fileName?_of_steps hsteps (by decide) (by decide)
    rw [hmanifest] at hrest
    cases hrest
    rw [houtput] at hmodule
    obtain rfl := Option.some.inj (hname.symm.trans hmodule.fileName?_eq)
    exact ⟨src, report, after, houtput, hrun, hdescriptor.readAny⟩

/-- An ampersand in a name leaves a text that is no document. -/
theorem ampersand_is_no_document :
    IsFileName "R&D.mod" ∧ ¬∃ root, Document (programDescriptor ["R&D.mod"]).toList root := by
  refine ⟨⟨by decide, by decide⟩, ?_⟩
  rintro ⟨root, h⟩
  obtain ⟨inner, closing, after, children, htext, rfl, hinner, hclosing⟩ :=
    exists_content_of_document h
  obtain ⟨tail, rfl⟩ := hclosing.exists_cons
  obtain ⟨more, nodes, rfl, rfl, hmore, hentry⟩ :=
    hinner.of_append_char (by decide) (.inr ⟨_, rfl⟩) htext.symm
  obtain ⟨inner', closing', cs, children', nodes', hname, rfl, hinner', hclosing', -⟩ :=
    hmore.of_entry (.inr ⟨_, rfl⟩) hentry
  obtain ⟨tail', rfl⟩ := hclosing'.exists_cons
  have hchars : normalName "R&D.mod" = 'R' :: '&' :: 'D' :: ".mod".toList := by decide
  rw [hchars] at hname
  obtain ⟨more', nodes, rfl, rfl, hmore', hmark⟩ :=
    hinner'.of_append_char (by decide) (.inr ⟨_, rfl⟩) hname.symm
  cases more' with
  | nil => cases (List.cons.inj hmark).1
  | cons c more' =>
      obtain ⟨rfl, hletter⟩ := List.cons.inj hmark
      obtain ⟨text, d, rest, href, hrest⟩ := hmore'.of_ampersand
      obtain ⟨e, rest', rfl, he⟩ := href.exists_cons
      obtain rfl := (List.cons.inj hrest).2
      obtain rfl := (List.cons.inj hletter).1
      exact absurd he (by decide)

end RobotCell
