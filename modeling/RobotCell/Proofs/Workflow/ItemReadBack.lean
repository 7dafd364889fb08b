import RobotCell.Proofs.Controller.Equality
import RobotCell.Proofs.Workflow.ItemWrite
import RobotCell.Proofs.Workflow.Simulated

/-!
# RobotCell.Proofs.Workflow.ItemReadBack

Items that are written and read again on a simulated controller.

A write of a session that may work has three outcomes (`Simulator.Writes`): there is no item of the
name, the value does not fit the item, or the item gets the literal of the value and nothing else
changes (`Simulator.ItemSet`).
-/

namespace RobotCell

open Session

namespace Simulator

/-! ## One item of a state -/

/-- The second state gives a value to an item of the first, the first item of its name in the first
module of its name, and is the same in everything else. -/
inductive ItemSet (module name value : String) (item : DataItem) :
    Simulator → Simulator → Prop where
  | intro {sim : Simulator} {m : LoadedModule} {before after : List LoadedModule}
      {earlier later : List DataItem} (hmodules : sim.modules = before ++ m :: after)
      (hmodule : m.name = module) (hbefore : ∀ other ∈ before, other.name ≠ module)
      (hitems : m.items = earlier ++ item :: later) (hname : item.name = name)
      (hearlier : ∀ other ∈ earlier, other.name ≠ name) :
      ItemSet module name value item sim { sim with
        modules := before ++ { m with items := earlier ++ { item with value } :: later } :: after }

variable {workspace : Files} {sim sim' : Simulator} {module name value : String} {item : DataItem}

/-- The first of a name is found. -/
theorem find?_name_append {α : Type} (f : α → String) {before after : List α} {a : α}
    (ha : f a = name) (hbefore : ∀ other ∈ before, f other ≠ name) :
    (before ++ a :: after).find? (f · == name) = some a := by
  refine List.find?_eq_some_iff_append.mpr ⟨by simp [ha], before, after, rfl, ?_⟩
  simpa using hbefore

theorem updateItem_append {earlier later : List DataItem} (hname : item.name = name)
    (hearlier : ∀ other ∈ earlier, other.name ≠ name) :
    updateItem (earlier ++ item :: later) name value =
      earlier ++ { item with value } :: later := by
  induction earlier with
  | nil => simp [updateItem, hname]
  | cons other earlier ih =>
      obtain ⟨hother, hearlier⟩ := List.forall_mem_cons.mp hearlier
      simp [updateItem, hother, ih hearlier]

theorem updateModule_append {m : LoadedModule} {before after : List LoadedModule}
    {f : LoadedModule → LoadedModule} (hmodule : m.name = module)
    (hbefore : ∀ other ∈ before, other.name ≠ module) :
    updateModule (before ++ m :: after) module f = before ++ f m :: after := by
  induction before with
  | nil => simp [updateModule, hmodule]
  | cons other before ih =>
      obtain ⟨hother, hbefore⟩ := List.forall_mem_cons.mp hbefore
      simp [updateModule, hother, ih hbefore]

/-- Writing to an item that is there sets it. -/
theorem itemSet_setData (h : sim.item? module name = some item) :
    ∃ sim', sim.setData module name value = (.ok (), sim') ∧
      ItemSet module name value item sim sim' := by
  obtain ⟨m, hmodule?, hitem?⟩ := Option.bind_eq_some_iff.mp h
  obtain ⟨hmodule, before, after, hmodules, hbefore⟩ := List.find?_eq_some_iff_append.mp hmodule?
  obtain ⟨hname, earlier, later, hitems, hearlier⟩ := List.find?_eq_some_iff_append.mp hitem?
  simp only [beq_iff_eq, Bool.not_eq_true', beq_eq_false_iff_ne] at hmodule hbefore hname hearlier
  refine ⟨_, ?_, .intro hmodules hmodule hbefore hitems hname hearlier⟩
  simp only [setData, h]
  rw [hmodules, updateModule_append hmodule hbefore, hitems, updateItem_append hname hearlier]

/-- An item that was set is found with its value. -/
theorem ItemSet.item?_eq (h : ItemSet module name value item sim sim') :
    sim'.item? module name = some { item with value } := by
  cases h with
  | intro hmodules hmodule hbefore hitems hname hearlier =>
      exact Option.bind_eq_some_iff.mpr ⟨_, find?_name_append LoadedModule.name hmodule hbefore,
        find?_name_append DataItem.name hname hearlier⟩

theorem ItemSet.loggedOn_eq (h : ItemSet module name value item sim sim') :
    sim'.loggedOn = sim.loggedOn := by
  cases h
  rfl

/-! ## Answers -/

theorem respond_getData {task : String} (hlogged : sim.loggedOn = true) :
    respond workspace (.getData task module name) sim = (.ok (sim.item? module name), sim) := by
  simp [respond, reading, requireLoggedOn, hlogged, Except.map]

theorem respond_setData {task : String} (hlogged : sim.loggedOn = true)
    (hmastership : sim.mastership = true) :
    respond workspace (.setData task module name value) sim = sim.setData module name value := by
  simp [respond, Simulator.writing, requireMastership, requireLoggedOn, hlogged, hmastership]

/-! ## Writing -/

variable {ν : Type} {s : Session} {v : DataValue}

/-- What a write of a value does, with its events, its result and the state it leaves. -/
inductive Writes (task module name : String) (v : DataValue) (sim : Simulator) :
    List (Event ν) → Except Failure Unit → Simulator → Prop where
  | missing (h : sim.item? module name = none) :
      Writes task module name v sim [.call (.getData task module name) (.ok none)]
        (.error (.symbolNotFound module name)) sim
  | misfit {item : DataItem} (h : sim.item? module name = some item)
      (hfits : v.fits item.dataType = false) :
      Writes task module name v sim [.call (.getData task module name) (.ok (some item))]
        (.error (.typeMismatch name item.dataType v.dataType)) sim
  | written {item : DataItem} {sim' : Simulator} (h : sim.item? module name = some item)
      (hfits : v.fits item.dataType = true) (hset : ItemSet module name v.literal item sim sim') :
      Writes task module name v sim [.call (.getData task module name) (.ok (some item)),
        .call (.setData task module name v.literal) (.ok ())] (.ok ()) sim'

/-- A step that is answered with success is rejected for its answer, or gone through. -/
theorem performs_of_answered {c : Call} {fault? : c.Answer → Option Failure} {rest : List PlanStep}
    {events : List (Event ν)} {failure : Option Failure} {answer : c.Answer} {sim₁ : Simulator}
    (hperforms : Performs (.call c fault? :: rest) events failure)
    (hanswered : Dialogue.Answered (respond workspace) sim events sim')
    (hcall : respond workspace c sim = (.ok answer, sim₁)) :
    (∃ e, fault? answer = some e ∧ failure = some e ∧ events = [.call c (.ok answer)] ∧
      sim' = sim₁) ∨
    ∃ more, fault? answer = none ∧ events = .call c (.ok answer) :: more ∧
      Performs rest more failure ∧ Dialogue.Answered (respond workspace) sim₁ more sim' := by
  cases hperforms with
  | refused e =>
      obtain ⟨_, heq, -⟩ := hanswered.of_call
      cases hcall.symm.trans heq
  | rejected hfault =>
      obtain ⟨_, heq, hend⟩ := hanswered.of_call
      cases hcall.symm.trans heq
      cases hend
      exact .inl ⟨_, hfault, rfl, rfl, rfl⟩
  | accepted hfault hrest =>
      obtain ⟨_, heq, hmore⟩ := hanswered.of_call
      cases hcall.symm.trans heq
      exact .inr ⟨_, hfault, rfl, hrest, hmore⟩

/-- The plan of a write, answered by a controller that lets the session work, is such a write. -/
theorem writes_of_performs {task : String} {events : List (Event ν)} {result : Except Failure Unit}
    (hlogged : sim.loggedOn = true) (hmastership : sim.mastership = true)
    (hperforms : Performs (PlanStep.write task module name v) events (failure? result))
    (hanswered : Dialogue.Answered (respond workspace) sim events sim') :
    Writes task module name v sim events result sim' := by
  -- the first call is answered with the item of the name, which decides what becomes of the write
  rcases performs_of_answered hperforms hanswered (respond_getData hlogged) with
    ⟨e, hfault, hfailure, rfl, rfl⟩ | ⟨more, hfault, rfl, hrest, hmore⟩
  · obtain rfl := failure?_eq_some_iff.mp hfailure
    cases hitem : sim'.item? module name with
    | none =>
        rw [hitem] at hfault
        cases hfault
        exact .missing hitem
    | some item =>
        rw [hitem] at hfault
        cases hfits : v.fits item.dataType with
        | true => simp [hfits] at hfault
        | false =>
            obtain rfl : Failure.typeMismatch name item.dataType v.dataType = e := by
              simpa [hfits] using hfault
            exact .misfit hitem hfits
  · cases hitem : sim.item? module name with
    | none =>
        rw [hitem] at hfault
        cases hfault
    | some item =>
        rw [hitem] at hfault
        have hfits : v.fits item.dataType = true := by
          by_contra hmisfit
          simp [hmisfit] at hfault
        obtain ⟨set, hset, hitemSet⟩ : ∃ set, sim.setData module name v.literal = (.ok (), set) ∧
            ItemSet module name v.literal item sim set := itemSet_setData hitem
        rw [← respond_setData hlogged hmastership] at hset
        rcases performs_of_answered hrest hmore hset with
          ⟨e, hplain, -⟩ | ⟨_, -, rfl, hdone, hend⟩
        · cases hplain
        · generalize hfailure : failure? result = failure at hdone
          cases hdone
          cases hend
          obtain ⟨-, rfl⟩ := failure?_eq_none_iff.mp hfailure
          exact .written hitem hfits hitemSet

/-- The events of an operation of a session on a simulated controller. -/
def events {α : Type} (workspace : Files) (x : SessionM (Dialogue Empty) α) (s : Session)
    (sim : Simulator) : List (Event Empty) :=
  Dialogue.trace (respond workspace) (x s) sim

theorem writes_writeValue (workspace : Files) (hs : s.state = .mastershipHeld)
    (hlogged : sim.loggedOn = true) (hmastership : sim.mastership = true) :
    ∃ result sim', perform workspace (writeValue module name v) s sim = ((result, s), sim') ∧
      Writes s.task module name v sim (events workspace (writeValue module name v) s sim) result
        sim' := by
  let x : SessionM (Dialogue Empty) Unit := writeValue module name v
  obtain ⟨hsame, hperforms⟩ :=
    follows_writeValue hs _ _ (Dialogue.path_run (respond workspace) (x s) sim)
  refine ⟨_, _, Prod.ext (Prod.ext rfl hsame) rfl, ?_⟩
  exact writes_of_performs hlogged hmastership hperforms
    (Dialogue.answered_run (respond workspace) (x s) sim)

/-! ## Reading -/

/-- An item that is there is read as its declared type, and nothing is changed. -/
theorem perform_readValue (workspace : Files) (hs : s.state ≠ .disconnected)
    (hlogged : sim.loggedOn = true) (hitem : sim.item? module name = some item) :
    perform workspace (Session.readValue module name) s sim =
      ((DataValue.parseAs item.dataType item.value, s), sim) := by
  have hlookup : Runs (lookup module name) s
      ([.call (.getData s.task module name) (.ok (some item))] : List (Event Empty))
      (.ok item, s) :=
    .ask _ (.done _)
  have hruns : Runs (Session.readValue module name) s
      ([.call (.getData s.task module name) (.ok (some item))] : List (Event Empty))
      (DataValue.parseAs item.dataType item.value, s) := by
    refine runs_connected_iff.mpr (.inl ⟨hs, ?_⟩)
    refine runs_bind_iff.mpr (.inr ⟨_, item, s, [], ?_, hlookup, ?_⟩)
    · simp
    · cases DataValue.parseAs item.dataType item.value with
      | error e => exact .done _
      | ok value => exact .done _
  have hcall : respond workspace (.getData s.task module name) sim = (.ok (some item), sim) := by
    rw [respond_getData hlogged, hitem]
  exact hruns.run_eq (Dialogue.Answered.cons hcall (.nil sim))

end Simulator

/-! ## Texts -/

/-- What writing a text to an item does, and what is read there afterwards. -/
structure TextReadsBack (workspace : Files) (module name text : String) (s : Session)
    (sim : Simulator) (out : (Except Failure Unit × Session) × Simulator)
    (events : List (Event Empty)) : Prop where
  session : out.1.2 = s
  /-- The write succeeds exactly when the text is a value that fits the declared type of an item. -/
  succeeds_iff : out.1.1 = .ok () ↔ ∃ v item, DataValue.parse text = .ok v ∧
    sim.item? module name = some item ∧ v.fits item.dataType = true
  /-- It then sets that item and nothing else, and whoever is logged on reads a value of the same
  type with the same literal. -/
  written : ∀ v item, DataValue.parse text = .ok v → sim.item? module name = some item →
    v.fits item.dataType = true →
      Simulator.ItemSet module name v.literal item sim out.2 ∧
      out.2.item? module name = some { item with value := v.literal } ∧
      ∃ w, w.dataType = v.dataType ∧ w.literal = v.literal ∧ ∀ s', s'.state ≠ .disconnected →
        Simulator.perform workspace (Session.readValue module name) s' out.2 = ((.ok w, s'), out.2)
  /-- The text is looked at first. -/
  unread : ∀ e, DataValue.parse text = .error e →
    (∃ shown defect, e = .invalidLiteral shown defect) ∧ out.1.1 = .error e
  /-- The item comes next, -/
  missing : ∀ v, DataValue.parse text = .ok v → sim.item? module name = none →
    out.1.1 = .error (.symbolNotFound module name)
  /-- and then its type. -/
  misfit : ∀ v item, DataValue.parse text = .ok v → sim.item? module name = some item →
    v.fits item.dataType = false → out.1.1 = .error (.typeMismatch name item.dataType v.dataType)
  /-- A write that fails leaves the controller as it is, and has not tried to set anything. -/
  failed : ∀ e, out.1.1 = .error e → out.2 = sim ∧ writtenTexts events = []

variable {workspace : Files} {s : Session} {sim : Simulator} {module name text : String}
  {v : DataValue}

theorem Simulator.Writes.textReadsBack {events : List (Event Empty)}
    {result : Except Failure Unit} {sim' : Simulator} (hlogged : sim.loggedOn = true)
    (hparse : DataValue.parse text = .ok v)
    (h : Simulator.Writes s.task module name v sim events result sim') :
    TextReadsBack workspace module name text s sim ((result, s), sim') events := by
  have hvalue {v' : DataValue} (h' : DataValue.parse text = .ok v') : v' = v :=
    Except.ok.inj (h'.symm.trans hparse)
  have hunread {e : Failure} (h' : DataValue.parse text = .error e) : False := by
    cases h'.symm.trans hparse
  cases h with
  | missing hitem =>
      exact {
        session := rfl
        succeeds_iff := by simp [hitem]
        written := fun v' item _ hitem' => by cases hitem.symm.trans hitem'
        unread := fun e he => (hunread he).elim
        missing := fun v' _ _ => rfl
        misfit := fun v' item _ hitem' => by cases hitem.symm.trans hitem'
        failed := fun e _ => ⟨rfl, rfl⟩ }
  | misfit hitem hfits =>
      exact {
        session := rfl
        succeeds_iff := by simp [hparse, hitem, hfits]
        written := fun v' item hv hitem' hfits' => by
          obtain rfl := hvalue hv
          cases hitem.symm.trans hitem'
          cases hfits.symm.trans hfits'
        unread := fun e he => (hunread he).elim
        missing := fun v' _ hitem' => by cases hitem.symm.trans hitem'
        misfit := fun v' item hv hitem' _ => by
          obtain rfl := hvalue hv
          cases hitem.symm.trans hitem'
          rfl
        failed := fun e _ => ⟨rfl, rfl⟩ }
  | written hitem hfits hset =>
      obtain ⟨hshown, hquote⟩ := DataValue.shown_of_parse hparse
      have hread := DataValue.parseAs_literal_of_shown hshown hquote hfits
      have hlogged' : sim'.loggedOn = true := hset.loggedOn_eq.trans hlogged
      exact {
        session := rfl
        succeeds_iff := by simp [hparse, hitem, hfits]
        written := fun v' item hv hitem' hfits' => by
          obtain rfl := hvalue hv
          cases hitem.symm.trans hitem'
          refine ⟨hset, hset.item?_eq, v'.unsigned, DataValue.dataType_mapNumbers,
            v'.literal_unsigned, fun s' hs' => ?_⟩
          rw [Simulator.perform_readValue workspace hs' hlogged' hset.item?_eq, hread]
        unread := fun e he => (hunread he).elim
        missing := fun v' _ hitem' => by cases hitem.symm.trans hitem'
        misfit := fun v' item hv hitem' hfits' => by
          obtain rfl := hvalue hv
          cases hitem.symm.trans hitem'
          cases hfits.symm.trans hfits'
        failed := fun e he => by cases he }

/-- **A text that is written reads back**: a session that holds mastership writes a text exactly
when it is a value that fits an item of the name; that item alone is changed, and it is read as a
value of the same type with the same literal.  Otherwise nothing is changed. -/
theorem written_text_reads_back (hs : s.state = .mastershipHeld) (hlogged : sim.loggedOn = true)
    (hmastership : sim.mastership = true) :
    TextReadsBack workspace module name text s sim
      (Simulator.perform workspace (writeText module name text) s sim)
      (Simulator.events workspace (writeText module name text) s sim) := by
  cases hparse : DataValue.parse text with
  | error e =>
      have hrefuse : writeText (m := Dialogue Empty) module name text = refuse e := by
        rw [writeText, hparse]
      rw [hrefuse]
      have hkind := DataValue.invalidLiteral_of_parse hparse
      exact {
        session := rfl
        succeeds_iff := by
          refine ⟨fun h => (by cases h), fun h => ?_⟩
          obtain ⟨v, -, hv, -⟩ := h
          cases hparse.symm.trans hv
        written := fun v item h => by cases hparse.symm.trans h
        unread := fun e' h => by
          cases hparse.symm.trans h
          exact ⟨hkind, rfl⟩
        missing := fun v h => by cases hparse.symm.trans h
        misfit := fun v item h => by cases hparse.symm.trans h
        failed := fun e h => ⟨rfl, rfl⟩ }
  | ok v =>
      have hwrite : writeText (m := Dialogue Empty) module name text =
          writeValue module name v := by
        rw [writeText, hparse]
      rw [hwrite]
      obtain ⟨result, sim', hperform, hwrites⟩ :=
        Simulator.writes_writeValue workspace hs hlogged hmastership
      rw [hperform]
      exact hwrites.textReadsBack hlogged hparse

/-- A number is written to an item for long numbers, in the second of two modules, and to none for
tools. -/
theorem written_text_reads_back_dnum :
    let number : DataItem := ⟨"M", "n", "dnum", "0"⟩
    let tool : DataItem := ⟨"M", "t", "tooldata", ""⟩
    let held : Session := { state := .mastershipHeld, handle := some Simulator.handle }
    let sim : Simulator :=
      { loggedOn := true, mastership := true, modules := [⟨"L", []⟩, ⟨"M", [tool, number]⟩] }
    (∃ sim', Simulator.perform {} (writeText "M" "n" " -02.50;") held sim = ((.ok (), held), sim') ∧
      Simulator.ItemSet "M" "n" "-2.5" number sim sim' ∧
      ∃ w, w.dataType = "num" ∧ w.literal = "-2.5" ∧
        Simulator.perform {} (Session.readValue "M" "n") held sim' = ((.ok w, held), sim')) ∧
    ∃ e, Simulator.perform {} (writeText "M" "t" " -02.50;") held sim = ((.error e, held), sim) ∧
      e = .typeMismatch "t" "tooldata" "num" := by
  intro number tool held sim
  let v : DataValue := .num (.ofRatio true (5 * unitsPerOne) 2)
  have hparse : DataValue.parse " -02.50;" = .ok v := by decide +kernel
  have hliteral : v.literal = "-2.5" := by decide +kernel
  have hout (name : String) : TextReadsBack {} "M" name " -02.50;" held sim
      (Simulator.perform {} (writeText "M" name " -02.50;") held sim)
      (Simulator.events {} (writeText "M" name " -02.50;") held sim) :=
    written_text_reads_back rfl rfl rfl
  constructor
  · have h := hout "n"
    have hok := h.succeeds_iff.mpr ⟨v, number, hparse, rfl, rfl⟩
    obtain ⟨hset, -, w, htype, hsame, hread⟩ := h.written v number hparse rfl rfl
    rw [hliteral] at hset hsame
    exact ⟨_, Prod.ext (Prod.ext hok h.session) rfl, hset, w, htype, hsame,
      hread held (by decide)⟩
  · have h := hout "t"
    have hmisfit := h.misfit v tool hparse rfl (by decide)
    exact ⟨_, Prod.ext (Prod.ext hmisfit h.session) (h.failed _ hmisfit).1, rfl⟩

/-! ## Values -/

/-- A value that fits an item is written to it, and read from it as from its own literal. -/
theorem exists_perform_writeValue {item : DataItem} (workspace : Files)
    (hs : s.state = .mastershipHeld) (hlogged : sim.loggedOn = true)
    (hmastership : sim.mastership = true) (hitem : sim.item? module name = some item)
    (hfits : v.fits item.dataType = true) :
    ∃ sim', Simulator.perform workspace (writeValue module name v) s sim = ((.ok (), s), sim') ∧
      Simulator.perform workspace (Session.readValue module name) s sim' =
        ((DataValue.parseAs item.dataType v.literal, s), sim') := by
  obtain ⟨result, sim', hperform, hwrites⟩ :=
    Simulator.writes_writeValue workspace hs hlogged hmastership
  refine ⟨sim', ?_⟩
  rw [hperform]
  generalize Simulator.events workspace (writeValue module name v) s sim = events at hwrites
  cases hwrites with
  | missing hitem' => cases hitem.symm.trans hitem'
  | misfit hitem' hfits' =>
      cases hitem.symm.trans hitem'
      cases hfits.symm.trans hfits'
  | written hitem' hfits' hset =>
      cases hitem.symm.trans hitem'
      have hconnected : s.state ≠ .disconnected := by simp [hs]
      have hread := Simulator.perform_readValue workspace hconnected
        (hset.loggedOn_eq.trans hlogged) hset.item?_eq
      exact ⟨rfl, hread⟩

/-- **Values read back as far as their quotes allow**: a value of finite numbers that its literal
shows is read from the literal as an equal value, and read as one from an item that it was written
to, exactly when no text of it has a quote. -/
theorem value_reads_back_iff (hfinite : ∀ x ∈ v.numbers, x.isFinite = true) (hshown : v.Shown) :
    ((∃ w, DataValue.parse v.literal = .ok w ∧ w.Equals v) ↔ v.QuoteFree) ∧
    ∀ (workspace : Files) (s : Session) (sim : Simulator) (module name : String) (item : DataItem),
      s.state = .mastershipHeld → sim.loggedOn = true → sim.mastership = true →
      sim.item? module name = some item → v.fits item.dataType = true →
      ∃ sim', Simulator.perform workspace (writeValue module name v) s sim = ((.ok (), s), sim') ∧
        ((∃ w, (Simulator.perform workspace (Session.readValue module name) s sim').1.1 = .ok w ∧
          w.Equals v) ↔ v.QuoteFree) := by
  refine ⟨DataValue.exists_equals_iff hfinite (DataValue.parse_literal_of_shown hshown)
    fun w hw => hw, fun workspace s sim module name item hs hlogged hmastership hitem hfits => ?_⟩
  obtain ⟨sim', hwrite, hread⟩ :=
    exists_perform_writeValue workspace hs hlogged hmastership hitem hfits
  refine ⟨sim', hwrite, ?_⟩
  rw [hread]
  exact DataValue.exists_equals_iff hfinite
    (fun hquote => DataValue.parseAs_literal_of_shown hshown hquote hfits)
    fun w hw => DataValue.parse_of_parseAs hw

/-- A unit of two lines that looks like syntax reads back, and comes back from an item; one with a
quote does neither. -/
theorem value_reads_back_iff_unit :
    let wobj (unit : String) : DataValue := .wobjdata ⟨false, true, unit, originFrame, originFrame⟩
    let held : Session := { state := .mastershipHeld, handle := some Simulator.handle }
    let sim : Simulator :=
      { loggedOn := true, mastership := true, modules := [⟨"M", [⟨"M", "w", "wobjdata", ""⟩]⟩] }
    let comesBack (unit : String) : Prop := ∃ sim',
      Simulator.perform {} (writeValue "M" "w" (wobj unit)) held sim = ((.ok (), held), sim') ∧
        ∃ w, (Simulator.perform {} (Session.readValue "M" "w") held sim').1.1 = .ok w ∧
          w.Equals (wobj unit)
    (∀ unit, (∀ x ∈ (wobj unit).numbers, x.isFinite = true) ∧ (wobj unit).Shown) ∧
    (∃ w, DataValue.parse (wobj "],;\n[").literal = .ok w ∧ w.Equals (wobj "],;\n[")) ∧
    comesBack "],;\n[" ∧
    (¬∃ w, DataValue.parse (wobj "a\"b").literal = .ok w ∧ w.Equals (wobj "a\"b")) ∧
    ¬comesBack "a\"b" := by
  intro wobj held sim comesBack
  have hfinite (unit : String) : ∀ x ∈ (wobj unit).numbers, x.isFinite = true :=
    (by decide +kernel : ∀ x ∈ originFrame.numbers ++ originFrame.numbers, x.isFinite = true)
  have hshown (unit : String) : (wobj unit).Shown := ⟨⟨rfl, rfl⟩, ⟨rfl, rfl⟩⟩
  have hplain : (wobj "],;\n[").QuoteFree := show '"' ∉ "],;\n[".toList by decide
  have hquoted : ¬(wobj "a\"b").QuoteFree := show ¬('"' ∉ "a\"b".toList) by decide
  have hwire (unit : String) :=
    (value_reads_back_iff (hfinite unit) (hshown unit)).2 {} held sim "M" "w" _ rfl rfl rfl rfl rfl
  refine ⟨fun unit => ⟨hfinite unit, hshown unit⟩,
    (value_reads_back_iff (hfinite _) (hshown _)).1.mpr hplain, ?_, ?_, ?_⟩
  · obtain ⟨sim', hwrite, hread⟩ := hwire "],;\n["
    exact ⟨sim', hwrite, hread.mpr hplain⟩
  · rwa [(value_reads_back_iff (hfinite _) (hshown _)).1]
  · rintro ⟨sim', hwrite, hread⟩
    obtain ⟨_, hwrite', hread'⟩ := hwire "a\"b"
    cases hwrite.symm.trans hwrite'
    exact hquoted (hread'.mp hread)

/-- A text with a quote in it is written as it stands, and refused when it is read. -/
theorem quote_is_not_read :
    let v : DataValue := .string "a\"b"
    (∀ x ∈ v.numbers, x.isFinite = true) ∧ v.Shown ∧ v.literal = "\"a\"b\"" ∧
      DataValue.parse v.literal = .error (.invalidLiteral "\"a\"b\"" .trailing) := by
  intro v
  exact ⟨by decide, trivial, by decide +kernel, by decide +kernel⟩

end RobotCell
