import Mathlib.Algebra.Ring.Nat
import Mathlib.Data.List.Induction
import RobotCell.Tracking.Recorder

/-!
# RobotCell.Proofs.Tracking.Recorder

What holds of a recorder after any moves.

A task goes through the events of its channel in the order of sending (`Delivers`): each is
delivered, or counted as lost with those around it.  What is delivered is recorded at once
(`RecordingTask.Sound`).  As the flag of the tracker is cleared by a task that has left its loop,
only the last task can be active (`Recorder.Sound`).  A task that has left its loop never records
again (`Recorder.getElem?_after_of_left`).
-/

namespace RobotCell

/-! ## Deliveries -/

namespace Received

/-- The event of a report, if it has one. -/
def event? : Received → Option PointerEvent
  | .event e => some e
  | _ => none

/-- How many events a report tells to be lost. -/
def lost : Received → Nat
  | .lagged skipped => skipped
  | _ => 0

/-- The events of reports, in their order. -/
def events (reports : List Received) : List PointerEvent := reports.filterMap event?

/-- How many events reports tell to be lost. -/
def totalLost (reports : List Received) : Nat := (reports.map lost).sum

@[simp] theorem events_concat (reports : List Received) (r : Received) :
    events (reports ++ [r]) = events reports ++ r.event?.toList := by
  cases hr : r.event? <;> simp [events, hr]

@[simp] theorem totalLost_concat (reports : List Received) (r : Received) :
    totalLost (reports ++ [r]) = totalLost reports + r.lost := by
  simp [totalLost]

/-- Without a lag nothing is lost. -/
theorem totalLost_eq_zero {reports : List Received}
    (h : ∀ skipped, .lagged skipped ∉ reports) : totalLost reports = 0 := by
  induction reports with
  | nil => rfl
  | cons r reports ih =>
      have hrest := ih fun skipped hmem => h skipped (List.mem_cons_of_mem r hmem)
      cases r with
      | lagged skipped => exact absurd List.mem_cons_self (h skipped)
      | event | empty | closed => simpa [totalLost, lost] using hrest

end Received

/-- Reports that lead from one position of the events to another: each event on the way is
delivered, or is one of those told to be lost. -/
inductive Delivers (sent : List PointerEvent) (start : Nat) : List Received → Nat → Prop
  | start : Delivers sent start [] start
  | event {reports : List Received} {position : Nat} {e : PointerEvent} :
      Delivers sent start reports position → sent[position]? = some e →
        Delivers sent start (reports ++ [.event e]) (position + 1)
  | lagged {reports : List Received} {position skipped : Nat} :
      Delivers sent start reports position → position + skipped ≤ sent.length →
        Delivers sent start (reports ++ [.lagged skipped]) (position + skipped)
  | nothing {reports : List Received} {position : Nat} {r : Received} :
      Delivers sent start reports position → r = .empty ∨ r = .closed →
        Delivers sent start (reports ++ [r]) position

namespace Delivers

variable {sent sent' : List PointerEvent} {start position : Nat} {reports : List Received}

/-- Events that are sent later do not matter. -/
theorem mono (h : Delivers sent start reports position) (hsent : sent <+: sent') :
    Delivers sent' start reports position := by
  induction h with
  | start => exact .start
  | event _ he ih =>
      obtain ⟨later, rfl⟩ := hsent
      exact ih.event ((List.getElem?_append_left (List.getElem?_eq_some_iff.mp he).1).trans he)
  | lagged _ hle ih => exact ih.lagged (Nat.le_trans hle hsent.length_le)
  | nothing _ hr ih => exact ih.nothing hr

/-- Every event on the way is delivered or lost. -/
theorem length_add_lost (h : Delivers sent start reports position) :
    start + (Received.events reports).length + Received.totalLost reports = position := by
  induction h with
  | start => rfl
  | event _ _ ih | lagged _ _ ih =>
      simp only [Received.events_concat, Received.totalLost_concat, Received.event?, Received.lost,
        Option.toList_some, Option.toList_none, List.length_append, List.length_cons,
        List.length_nil]
      omega
  | nothing _ hr ih =>
      rcases hr with rfl | rfl
      all_goals simpa [Received.event?, Received.lost] using ih

/-- What is delivered stands on the way in the same order. -/
theorem sublist (h : Delivers sent start reports position) :
    (Received.events reports).Sublist ((sent.take position).drop start) := by
  induction h with
  | start => simp [Received.events]
  | @event reports position e hbefore he ih =>
      have hlength : start ≤ (sent.take position).length := by
        have := hbefore.length_add_lost
        have := (List.getElem?_eq_some_iff.mp he).1
        rw [List.length_take]
        omega
      rw [Received.events_concat, List.take_add_one, he, List.drop_append_of_le_length hlength]
      exact ih.append (List.Sublist.refl [e])
  | @lagged reports position skipped _ _ ih =>
      have hmore : sent.take position <+: sent.take (position + skipped) :=
        List.take_prefix_take_left (Nat.le_add_right position skipped)
      rw [Received.events_concat]
      simpa [Received.event?] using ih.trans (hmore.sublist.drop start)
  | nothing _ hr ih =>
      rw [Received.events_concat]
      rcases hr with rfl | rfl
      all_goals simpa [Received.event?] using ih

/-- Without losses the events on the way are delivered. -/
theorem events_eq (h : Delivers sent start reports position) (hposition : position ≤ sent.length)
    (hlost : Received.totalLost reports = 0) :
    Received.events reports = (sent.take position).drop start := by
  refine h.sublist.eq_of_length ?_
  have hlength := h.length_add_lost
  rw [List.length_drop, List.length_take]
  omega

end Delivers

/-! ## Channels -/

/-- What a receiver finds: that it has fallen behind, the next event, or the end. -/
theorem Channel.receive_cases (c : Channel) (cursor : Nat) :
    cursor < c.oldest ∧ c.receive cursor = (.lagged (c.oldest - cursor), c.oldest) ∨
    (∃ e, c.sent[cursor]? = some e ∧ c.receive cursor = (.event e, cursor + 1)) ∨
    c.sent.size ≤ cursor ∧ ∃ r, (r = .empty ∨ r = .closed) ∧ c.receive cursor = (r, cursor) := by
  unfold receive
  by_cases hold : cursor < c.oldest
  · exact .inl ⟨hold, if_pos hold⟩
  · rw [if_neg hold]
    cases he : c.sent[cursor]? with
    | some e => exact .inr (.inl ⟨e, rfl, rfl⟩)
    | none =>
        refine .inr (.inr ⟨Array.getElem?_eq_none_iff.mp he, _, ?_, rfl⟩)
        cases c.closed
        · exact .inl rfl
        · exact .inr rfl

/-! ## Tasks -/

namespace RecordingTask

/-- What a turn can be. -/
inductive Moves (c : Channel) (t : RecordingTask) : TaskMove → RecordingTask → TaskEffect → Prop
  | event {e : PointerEvent} :
      t.isLive = true → t.held = none → c.sent[t.cursor]? = some e →
        Moves c t .receive { t.found (.event e) (t.cursor + 1) with held := some e } .none
  | lagged :
      t.isLive = true → t.held = none → t.cursor < c.oldest →
        Moves c t .receive (t.found (.lagged (c.oldest - t.cursor)) c.oldest) .none
  | leave {r : Received} :
      t.isLive = true → t.held = none → c.sent.size ≤ t.cursor → r = .empty ∨ r = .closed →
        Moves c t .receive { t.found r t.cursor with phase := .leaving } .none
  | record {e : PointerEvent} :
      t.held = some e →
        Moves c t .record { t with held := none, recorded := t.recorded ++ [e] } (.append e)
  | heed :
      t.phase = .recording → t.held = none →
        Moves c t .heed { t with phase := .draining } .none
  | finish : t.phase = .leaving → Moves c t .finish { t with phase := .ended } .release
  | handle {m : TaskMove} {handle : HandleState} :
      (handle = .detached → t.phase = .ended) → Moves c t m { t with handle } .none

variable {c : Channel} {t t' : RecordingTask} {m : TaskMove} {effect : TaskEffect}

/-- Receiving is one of the moves of a live task that holds nothing. -/
theorem moves_of_receive (hlive : t.isLive = true) (hheld : t.held = none)
    (h : t.receive c = some t') : Moves c t .receive t' .none := by
  unfold receive at h
  rcases c.receive_cases t.cursor with ⟨hold, hfound⟩ | ⟨e, he, hfound⟩ | ⟨hend, r, hr, hfound⟩
  · rw [hfound] at h
    obtain rfl := Option.some.inj h
    exact .lagged hlive hheld hold
  · rw [hfound] at h
    obtain rfl := Option.some.inj h
    exact .event hlive hheld he
  · rw [hfound] at h
    rcases hr with rfl | rfl
    · simp only at h
      split at h
      · obtain rfl := Option.some.inj h
        exact .leave hlive hheld hend (.inl rfl)
      · cases h
    · obtain rfl := Option.some.inj h
      exact .leave hlive hheld hend (.inr rfl)

/-- Whatever a task does is one of its moves. -/
theorem moves_of_move (h : t.move c m = some (t', effect)) : Moves c t m t' effect := by
  cases m with
  | receive =>
      simp only [move] at h
      split at h
      · rename_i hready
        rw [Bool.and_eq_true, Option.isNone_iff_eq_none] at hready
        obtain ⟨found, hfound, heq⟩ := Option.map_eq_some_iff.mp h
        cases heq
        exact moves_of_receive hready.1 hready.2 hfound
      · cases h
  | record =>
      obtain ⟨e, he, heq⟩ := Option.map_eq_some_iff.mp h
      cases heq
      exact .record he
  | heed =>
      simp only [move] at h
      split at h
      · rename_i hready
        cases h
        exact .heed hready.1 hready.2.1
      · cases h
  | finish =>
      simp only [move] at h
      split at h
      · cases h
        exact .finish ‹_›
      · cases h
  | join =>
      simp only [move] at h
      split at h
      · rename_i hready
        cases h
        exact .handle fun _ => hready.2
      · cases h
  | detach | drop =>
      simp only [move] at h
      split at h
      · cases h
        exact .handle nofun
      · cases h

/-- A live task is active. -/
theorem isActive_of_isLive (h : t.isLive = true) : t.isActive = true := by
  cases hphase : t.phase <;> simp [isLive, isActive, hphase] at h ⊢

namespace Moves

/-- A task keeps its channel. -/
theorem channel_eq (h : Moves c t m t' effect) : t'.channel = t.channel := by
  cases h <;> rfl

/-- A task keeps the position that it began at. -/
theorem start_eq (h : Moves c t m t' effect) : t'.start = t.start := by
  cases h <;> rfl

/-- A task is active until it releases the tracker, and never again after that. -/
theorem isActive_iff (h : Moves c t m t' effect) :
    t'.isActive = true ↔ t.isActive = true ∧ effect ≠ .release := by
  cases h with
  | event | lagged | record | handle => exact (and_iff_left nofun).symm
  | leave hlive => exact iff_of_true rfl ⟨isActive_of_isLive hlive, nofun⟩
  | heed hphase => exact iff_of_true rfl ⟨by simp [isActive, hphase], nofun⟩
  | finish => exact iff_of_false nofun fun h => h.2 rfl

/-- Only an active task gives its place up. -/
theorem isActive_of_release (h : Moves c t m t' .release) : t.isActive = true := by
  cases h with
  | finish hphase => simp [isActive, hphase]

/-- A task that has left its loop goes on to its end, and nothing else changes but its handle. -/
theorem of_left (h : Moves c t m t' effect) (hleft : t.isLive = false) (hheld : t.held = none) :
    t'.isLive = false ∧ t' = { t with phase := t'.phase, handle := t'.handle } := by
  cases h with
  | event hlive | lagged hlive | leave hlive => cases hlive.symm.trans hleft
  | record he => cases hheld.symm.trans he
  | heed hphase => simp [isLive, hphase] at hleft
  | finish => exact ⟨rfl, rfl⟩
  | handle => exact ⟨hleft, rfl⟩

/-- A task leaves its loop when its receiver finds the end of the channel. -/
theorem leaves (h : Moves c t m t' effect) (hlive : t.isLive = true) (hleft : t'.isLive = false) :
    m = .receive ∧ t'.cursor = t.cursor ∧ c.sent.size ≤ t.cursor := by
  cases h with
  | leave _ _ hend => exact ⟨rfl, rfl, hend⟩
  | event | lagged | record | handle => cases hlive.symm.trans hleft
  | heed => cases hleft
  | finish hphase => simp [isLive, hphase] at hlive

end Moves

/-- What holds of a task at all times. -/
structure Sound (c : Channel) (t : RecordingTask) : Prop where
  delivers : Delivers c.sent.toList t.start t.reports t.cursor
  bounded : t.cursor ≤ c.sent.size
  /-- What was delivered is recorded, but for what the task holds. -/
  recorded : t.recorded ++ t.held.toList = Received.events t.reports
  left : t.isLive = false → t.held = none
  detached : t.handle = .detached → t.phase = .ended

namespace Sound

/-- What is sent later does not change what a task has recorded. -/
theorem mono {c' : Channel} (h : Sound c t) (hsent : c.sent.toList <+: c'.sent.toList) :
    Sound c' t where
  delivers := h.delivers.mono hsent
  bounded := Nat.le_trans h.bounded (by simpa using hsent.length_le)
  recorded := h.recorded
  left := h.left
  detached := h.detached

/-- Every move of a task keeps it sound. -/
theorem moves (h : Sound c t) (hmoves : Moves c t m t' effect) : Sound c t' := by
  have hrecorded := h.recorded
  have hended : t.isLive = true → t.handle ≠ .detached := fun hlive hdetached => by
    simp [isLive, h.detached hdetached] at hlive
  cases hmoves with
  | @event e hlive hheld he =>
      obtain ⟨hlt, -⟩ := Array.getElem?_eq_some_iff.mp he
      rw [← Array.getElem?_toList] at he
      rw [hheld, Option.toList_none, List.append_nil] at hrecorded
      refine ⟨h.delivers.event he, hlt, ?_, fun hleft => ?_, h.detached⟩
      · simp [found, hrecorded, Received.event?]
      · cases (show t.isLive = false from hleft).symm.trans hlive
  | lagged hlive hheld hold =>
      have hskip : t.cursor + (c.oldest - t.cursor) = c.oldest := by omega
      have hsize : c.oldest ≤ c.sent.size := Nat.sub_le _ _
      have hdelivers := @Delivers.lagged _ _ _ _ (c.oldest - t.cursor) h.delivers (by simpa [hskip])
      rw [hskip] at hdelivers
      refine ⟨hdelivers, hsize, ?_, h.left, h.detached⟩
      simp [found, hrecorded, Received.event?]
  | leave hlive hheld hend hr =>
      refine ⟨h.delivers.nothing hr, h.bounded, ?_, fun _ => hheld, fun hdetached => ?_⟩
      · rcases hr with rfl | rfl
        all_goals simp [found, hrecorded, Received.event?]
      · exact absurd hdetached (hended hlive)
  | @record e hheld =>
      refine ⟨h.delivers, h.bounded, ?_, fun _ => rfl, h.detached⟩
      simpa [hheld] using hrecorded
  | heed hphase hheld =>
      refine ⟨h.delivers, h.bounded, hrecorded, fun _ => hheld, fun hdetached => ?_⟩
      exact absurd hdetached (hended (by simp [isLive, hphase]))
  | finish hphase =>
      exact ⟨h.delivers, h.bounded, hrecorded, fun _ => h.left (by simp [isLive, hphase]),
        fun _ => rfl⟩
  | handle hdetached => exact ⟨h.delivers, h.bounded, hrecorded, h.left, hdetached⟩

end Sound

/-- A task that begins is sound. -/
theorem Sound.begin {channel position : Nat} (h : position ≤ c.sent.size) :
    Sound c (.begin channel position) :=
  ⟨.start, h, rfl, fun _ => rfl, nofun⟩

/-- What a turn records is what it appends. -/
theorem Moves.recorded_eq (h : Moves c t m t' effect) :
    (effect = .none ∨ effect = .release) ∧ t'.recorded = t.recorded ∨
      ∃ e, effect = .append e ∧ t.held = some e ∧ t'.recorded = t.recorded ++ [e] := by
  cases h with
  | record he => exact .inr ⟨_, rfl, he, rfl⟩
  | finish => exact .inl ⟨.inr rfl, rfl⟩
  | _ => exact .inl ⟨.inl rfl, rfl⟩

end RecordingTask

/-! ## Lists -/

theorem flatMap_set_of_eq {α β : Type} {l : List α} {f : α → List β} {i : Nat} {a a' : α}
    (ha : l[i]? = some a) (h : f a' = f a) : (l.set i a').flatMap f = l.flatMap f := by
  obtain ⟨hlt, rfl⟩ := List.getElem?_eq_some_iff.mp ha
  have hmap : (l.set i a').map f = l.map f := by
    rw [List.map_set, h, ← List.getElem_map f (h := by simpa using hlt), List.set_getElem_self]
  rw [List.flatMap_def, hmap, List.flatMap_def]

theorem exists_concat_of_last {α : Type} {l : List α} {i : Nat} {a : α} (ha : l[i]? = some a)
    (hlast : i + 1 = l.length) : ∃ before, l = before ++ [a] ∧ before.length = i := by
  rcases List.eq_nil_or_concat l with rfl | ⟨before, b, rfl⟩
  · cases hlast
  · rw [List.concat_eq_append] at ha hlast ⊢
    obtain rfl : i = before.length := by simpa using hlast
    obtain rfl : b = a := by simpa using ha
    exact ⟨before, rfl, rfl⟩

/-! ## Logs -/

/-- The sample of an event at a place of the log. -/
def PointerEvent.sample (seq : Nat) (e : PointerEvent) : PointerSample :=
  ⟨seq, e.kind, e.module, e.row⟩

/-- A log that is appended to numbers the new event next. -/
theorem PointerLog.samples_append {log : PointerLog} {events : List PointerEvent} (e : PointerEvent)
    (h : log.samples.toList = events.mapIdx PointerEvent.sample) :
    (log.append e).samples.toList = (events ++ [e]).mapIdx PointerEvent.sample := by
  have hsize : log.samples.size = events.length := by
    simpa using congrArg List.length h
  rw [append, Array.toList_push, h, List.mapIdx_concat, hsize]
  rfl

/-! ## Moves of a recorder -/

namespace Recorder

variable {s s' : Recorder} {m : RecorderMove} {i : Nat} {t t' : RecordingTask}

/-- What a move can be. -/
inductive Steps (s : Recorder) : RecorderMove → Recorder → Prop
  | idle {m : RecorderMove} : Steps s m s
  | channel {m : RecorderMove} {k : Nat} {f : Channel → Channel} :
      (∀ c, c.sent.toList <+: (f c).sent.toList) → Steps s m (s.onChannel k f)
  | attach {k position : Nat} :
      s.attached = false → position ≤ (s.channels k).sent.size →
        Steps s (.attach k position)
          { s with attached := true, tasks := s.tasks ++ [.begin k position] }
  | task {i : Nat} {m : TaskMove} {t t' : RecordingTask} {effect : TaskEffect} :
      s.tasks[i]? = some t → t.Moves (s.channels t.channel) m t' effect →
        Steps s (.task i m) { s.apply effect with tasks := s.tasks.set i t' }

/-- A step of the recorder is one of its steps. -/
theorem steps_step (s : Recorder) (m : RecorderMove) : s.Steps m (s.step m) := by
  cases m with
  | send k e =>
      simp only [step]
      split
      · exact .idle
      · exact .channel fun c => by simp [Channel.send]
  | close k =>
      simp only [step]
      exact .channel fun c => List.prefix_rfl
  | attach k position =>
      simp only [step, attach]
      split
      · cases hattached : s.attached with
        | true => exact .idle
        | false => exact .attach hattached ‹_›
      · exact .idle
  | task i m =>
      simp only [step, moveTask]
      split
      · exact .idle
      · rename_i t ht
        split
        · exact .idle
        · rename_i t' effect hmove
          exact .task ht (RecordingTask.moves_of_move hmove)

@[simp] theorem apply_channels (s : Recorder) (effect : TaskEffect) :
    (s.apply effect).channels = s.channels := by
  cases effect <;> rfl

/-- An attachment lasts until the task gives its place up. -/
theorem apply_attached (s : Recorder) (effect : TaskEffect) :
    (s.apply effect).attached = true ↔ s.attached = true ∧ effect ≠ .release := by
  cases effect <;> simp [apply]

namespace Steps

/-- Channels keep what was sent. -/
theorem sent_grows (h : s.Steps m s') (k : Nat) :
    (s.channels k).sent.toList <+: (s'.channels k).sent.toList := by
  cases h with
  | idle | attach => exact List.prefix_rfl
  | @channel _ k' f hf =>
      by_cases hk : k = k'
      · simpa [onChannel, hk] using hf _
      · simp [onChannel, hk]
  | task => simp

/-- Where a task was before a move, unless it begins with it. -/
theorem task_cases (h : s.Steps m s') (ht : s'.tasks[i]? = some t') :
    s.tasks[i]? = some t' ∨
    (∃ a t effect, m = .task i a ∧ s.tasks[i]? = some t ∧
      t.Moves (s.channels t.channel) a t' effect) ∨
    ∃ k position, m = .attach k position ∧ i = s.tasks.length ∧
      position ≤ (s.channels k).sent.size ∧ t' = .begin k position := by
  cases h with
  | idle | channel => exact .inl ht
  | attach _ hposition =>
      rw [List.getElem?_append] at ht
      split at ht
      · exact .inl ht
      · have hlt := (List.getElem?_eq_some_iff.mp ht).1
        have hbegin := List.mem_singleton.mp (List.mem_of_getElem? ht)
        rw [List.length_singleton] at hlt
        exact .inr (.inr ⟨_, _, rfl, by omega, hposition, hbegin⟩)
  | @task j a t u effect hj hmoves =>
      by_cases hij : j = i
      · subst hij
        have hlt := (List.getElem?_eq_some_iff.mp hj).1
        obtain rfl : u = t' := by simpa [List.getElem?_set_self hlt] using ht
        exact .inr (.inl ⟨a, t, effect, rfl, hj, hmoves⟩)
      · rw [List.getElem?_set_ne hij] at ht
        exact .inl ht

/-- Every task goes on with a turn of its own, or as it was. -/
theorem task_goes_on (h : s.Steps m s') (ht : s.tasks[i]? = some t) :
    ∃ t', s'.tasks[i]? = some t' ∧
      (t' = t ∨ ∃ a effect, t.Moves (s.channels t.channel) a t' effect) := by
  have hlt := (List.getElem?_eq_some_iff.mp ht).1
  cases h with
  | idle | channel => exact ⟨t, ht, .inl rfl⟩
  | attach => exact ⟨t, (List.getElem?_append_left hlt).trans ht, .inl rfl⟩
  | @task j a u u' effect hj hmoves =>
      by_cases hij : j = i
      · subst hij
        obtain rfl : u = t := Option.some.inj (hj.symm.trans ht)
        exact ⟨u', List.getElem?_set_self hlt, .inr ⟨a, effect, hmoves⟩⟩
      · exact ⟨t, (List.getElem?_set_ne hij).trans ht, .inl rfl⟩

/-- The log only grows. -/
theorem log_grows (h : s.Steps m s') : s.log.samples.toList <+: s'.log.samples.toList := by
  cases h with
  | idle | channel | attach => exact List.prefix_rfl
  | @task j a t u effect =>
      cases effect with
      | append e => simp [apply, PointerLog.append]
      | none | release => exact List.prefix_rfl

end Steps

/-! ## What holds at all times -/

/-- What holds of a recorder at all times. -/
structure Sound (s : Recorder) : Prop where
  tasks : ∀ t ∈ s.tasks, t.Sound (s.channels t.channel)
  /-- Only the last task can be active, and only while the tracker is attached. -/
  last : ∀ i t, s.tasks[i]? = some t → t.isActive = true →
    i + 1 = s.tasks.length ∧ s.attached = true
  attached : s.attached = true → ∃ t ∈ s.tasks, t.isActive = true
  /-- The log has what the tasks have recorded, one after the other. -/
  log : s.log.samples.toList = (s.tasks.flatMap (·.recorded)).mapIdx PointerEvent.sample

namespace Sound

/-- A recorder without tasks is sound. -/
theorem new (channels : Nat → Channel) : (new channels).Sound :=
  ⟨nofun, by simp [Recorder.new], nofun, rfl⟩

/-- Each task of a sound recorder is sound. -/
theorem task_of_getElem? (h : s.Sound) (ht : s.tasks[i]? = some t) :
    t.Sound (s.channels t.channel) :=
  h.tasks t (List.mem_of_getElem? ht)

/-- A step keeps every task sound. -/
theorem tasks_step (h : s.Sound) (hstep : s.Steps m s') :
    ∀ t ∈ s'.tasks, t.Sound (s'.channels t.channel) := by
  intro t' ht'
  obtain ⟨i, ht'⟩ := List.mem_iff_getElem?.mp ht'
  refine RecordingTask.Sound.mono ?_ (hstep.sent_grows t'.channel)
  rcases hstep.task_cases ht' with hsame | ⟨a, t, effect, -, ht, hmoves⟩ | ⟨k, p, -, -, hp, rfl⟩
  · exact h.task_of_getElem? hsame
  · rw [hmoves.channel_eq]
    exact (h.task_of_getElem? ht).moves hmoves
  · exact .begin hp

/-- After a step only the last task may be active, and then it is attached. -/
theorem last_step (h : s.Sound) (hstep : s.Steps m s') :
    ∀ i t, s'.tasks[i]? = some t → t.isActive = true →
      i + 1 = s'.tasks.length ∧ s'.attached = true := by
  intro i t ht hactive
  cases hstep with
  | idle | channel => exact h.last i t ht hactive
  | attach hdetached =>
      rw [List.getElem?_append] at ht
      split at ht
      · exact absurd (h.last i t ht hactive).2 (by simp [hdetached])
      · have hlt := (List.getElem?_eq_some_iff.mp ht).1
        rw [List.length_singleton] at hlt
        refine ⟨?_, rfl⟩
        rw [List.length_append, List.length_singleton]
        omega
  | @task j a u u' effect hj hmoves =>
      rw [List.length_set, apply_attached]
      by_cases hij : j = i
      · subst hij
        have hlt := (List.getElem?_eq_some_iff.mp hj).1
        obtain rfl : u' = t := by simpa [List.getElem?_set_self hlt] using ht
        obtain ⟨hbefore, heffect⟩ := hmoves.isActive_iff.mp hactive
        obtain ⟨hlast, hattached⟩ := h.last j u hj hbefore
        exact ⟨hlast, hattached, heffect⟩
      · rw [List.getElem?_set_ne hij] at ht
        obtain ⟨hlast, hattached⟩ := h.last i t ht hactive
        refine ⟨hlast, hattached, ?_⟩
        rintro rfl
        -- the task that releases the tracker would be the last one as well
        have := (h.last j u hj hmoves.isActive_of_release).1
        omega

/-- After a step an attachment has an active task. -/
theorem attached_step (h : s.Sound) (hstep : s.Steps m s') :
    s'.attached = true → ∃ t ∈ s'.tasks, t.isActive = true := by
  intro hattached
  cases hstep with
  | idle | channel => exact h.attached hattached
  | attach => exact ⟨_, List.mem_append_right _ List.mem_cons_self, rfl⟩
  | @task j a u u' effect hj hmoves =>
      obtain ⟨hbefore, heffect⟩ := (apply_attached s effect).mp hattached
      obtain ⟨t, ht, hactive⟩ := h.attached hbefore
      obtain ⟨i, ht⟩ := List.mem_iff_getElem?.mp ht
      by_cases hij : j = i
      · subst hij
        obtain rfl : u = t := Option.some.inj (hj.symm.trans ht)
        exact ⟨u', List.mem_set (List.getElem?_eq_some_iff.mp hj).1 _,
          hmoves.isActive_iff.mpr ⟨hactive, heffect⟩⟩
      · exact ⟨t, List.mem_of_getElem? ((List.getElem?_set_ne hij).trans ht), hactive⟩

/-- After a step the log has what the tasks recorded, in their order. -/
theorem log_step (h : s.Sound) (hstep : s.Steps m s') :
    s'.log.samples.toList = (s'.tasks.flatMap (·.recorded)).mapIdx PointerEvent.sample := by
  cases hstep with
  | idle | channel => exact h.log
  | attach => simpa [RecordingTask.begin] using h.log
  | @task j a u u' effect hj hmoves =>
      rcases hmoves.recorded_eq with ⟨heffect, hsame⟩ | ⟨e, rfl, hheld, hmore⟩
      · have hlog : (s.apply effect).log = s.log := by
          rcases heffect with rfl | rfl <;> rfl
        rw [hlog, flatMap_set_of_eq hj hsame]
        exact h.log
      · have hlive : u.isLive = true := by
          by_contra hleft
          have hnone := (h.task_of_getElem? hj).left (by simpa using hleft)
          cases hnone.symm.trans hheld
        obtain ⟨hlast, -⟩ := h.last j u hj (RecordingTask.isActive_of_isLive hlive)
        obtain ⟨earlier, htasks, rfl⟩ := exists_concat_of_last hj hlast
        have hlog := PointerLog.samples_append e h.log
        simpa [htasks, hmore, apply] using hlog

/-- A step keeps a recorder sound. -/
theorem step (h : s.Sound) (hstep : s.Steps m s') : s'.Sound :=
  ⟨h.tasks_step hstep, h.last_step hstep, h.attached_step hstep, h.log_step hstep⟩

end Sound

/-! ## Runs -/

theorem after_cons (s : Recorder) (m : RecorderMove) (moves : List RecorderMove) :
    s.after (m :: moves) = (s.step m).after moves := rfl

theorem after_append (s : Recorder) (moves more : List RecorderMove) :
    s.after (moves ++ more) = (s.after moves).after more :=
  List.foldl_append

theorem after_concat (s : Recorder) (moves : List RecorderMove) (m : RecorderMove) :
    s.after (moves ++ [m]) = (s.after moves).step m := after_append s moves [m]

/-- So do any moves one after another. -/
theorem Sound.after (h : s.Sound) (moves : List RecorderMove) : (s.after moves).Sound := by
  induction moves generalizing s with
  | nil => exact h
  | cons m moves ih => exact ih (h.step (s.steps_step m))

/-- The log only grows. -/
theorem log_grows_after (s : Recorder) (moves : List RecorderMove) :
    s.log.samples.toList <+: (s.after moves).log.samples.toList := by
  induction moves generalizing s with
  | nil => exact List.prefix_rfl
  | cons m moves ih => exact (s.steps_step m).log_grows.trans (ih (s.step m))

/-- A task that has left its loop stays out of it, and nothing else changes but its handle. -/
theorem getElem?_after_of_left (h : s.Sound) (ht : s.tasks[i]? = some t) (hleft : t.isLive = false)
    (moves : List RecorderMove) :
    ∃ t', (s.after moves).tasks[i]? = some t' ∧ t'.isLive = false ∧
      t' = { t with phase := t'.phase, handle := t'.handle } := by
  induction moves generalizing s t with
  | nil => exact ⟨t, ht, hleft, rfl⟩
  | cons m moves ih =>
      have hstep := s.steps_step m
      have hheld := (h.task_of_getElem? ht).left hleft
      obtain ⟨u, hu, hsame | ⟨a, effect, hmoves⟩⟩ := hstep.task_goes_on ht
      · subst hsame
        exact ih (h.step hstep) hu hleft
      · obtain ⟨hleft', hu'⟩ := hmoves.of_left hleft hheld
        obtain ⟨t', ht', hlast, heq⟩ := ih (h.step hstep) hu hleft'
        refine ⟨t', ht', hlast, ?_⟩
        rw [heq, hu']

/-- The move by which a task began. -/
theorem exists_attach {channels : Nat → Channel} {moves : List RecorderMove}
    (ht : ((new channels).after moves).tasks[i]? = some t) :
    ∃ before rest, moves = before ++ .attach t.channel t.start :: rest ∧
      ((new channels).after before).tasks.length = i ∧
      t.start ≤ (((new channels).after before).channels t.channel).sent.size := by
  induction moves using List.reverseRecOn generalizing t with
  | nil => simp [after, new] at ht
  | append_singleton moves m ih =>
      have hstep := ((new channels).after moves).steps_step m
      rw [after_concat] at ht
      rcases hstep.task_cases ht with hsame | ⟨a, u, effect, rfl, hu, hmoves⟩ |
        ⟨k, p, rfl, rfl, hp, rfl⟩
      · obtain ⟨before, rest, rfl, h⟩ := ih hsame
        exact ⟨before, rest ++ [m], by simp, h⟩
      · obtain ⟨before, rest, rfl, h⟩ := ih hu
        refine ⟨before, rest ++ [.task i a], ?_, ?_⟩
        · simp [hmoves.channel_eq, hmoves.start_eq]
        · rw [hmoves.channel_eq, hmoves.start_eq]
          exact h
      · exact ⟨moves, [], rfl, rfl, hp⟩

/-- The move by which a task leaves its loop: its receiver has found the end of the channel. -/
theorem exists_leave {channels : Nat → Channel} {moves : List RecorderMove}
    (ht : ((new channels).after moves).tasks[i]? = some t) (hleft : t.isLive = false) :
    ∃ before rest u u', moves = before ++ .task i .receive :: rest ∧
      ((new channels).after before).tasks[i]? = some u ∧ u.isLive = true ∧
      ((new channels).after (before ++ [.task i .receive])).tasks[i]? = some u' ∧
      u'.isLive = false ∧
      t = { u' with phase := t.phase, handle := t.handle } ∧
      t.cursor = (((new channels).after before).channels t.channel).sent.size := by
  induction moves using List.reverseRecOn generalizing t with
  | nil => simp [after, new] at ht
  | append_singleton moves m ih =>
      have hsound := (Sound.new channels).after moves
      have hstep := ((new channels).after moves).steps_step m
      rw [after_concat] at ht
      rcases hstep.task_cases ht with hsame | ⟨a, u, effect, rfl, hu, hmoves⟩ | ⟨k, p, -, -, -, rfl⟩
      · obtain ⟨before, rest, u, u', rfl, h⟩ := ih hsame hleft
        exact ⟨before, rest ++ [m], u, u', by simp, h⟩
      · cases hlive : u.isLive with
        | false =>
            have hheld := (hsound.task_of_getElem? hu).left hlive
            obtain ⟨-, heq⟩ := hmoves.of_left hlive hheld
            obtain ⟨before, rest, v, v', rfl, hv, hvlive, hv', hvleft, hsame, hcursor⟩ := ih hu hlive
            refine ⟨before, rest ++ [.task i a], v, v', by simp, hv, hvlive, hv', hvleft, ?_, ?_⟩
            · rw [heq, hsame]
            · rw [heq]
              exact hcursor
        | true =>
            obtain ⟨rfl, hcursor, hend⟩ := hmoves.leaves hlive hleft
            have hbounded := (hsound.task_of_getElem? hu).bounded
            refine ⟨moves, [], u, t, rfl, hu, hlive, by rwa [after_concat], hleft, rfl, ?_⟩
            rw [hmoves.channel_eq, hcursor]
            exact Nat.le_antisymm hbounded hend
      · cases hleft

/-- The events that a task has not received yet. -/
def pending (s : Recorder) (t : RecordingTask) : Nat :=
  (s.channels t.channel).sent.size - t.cursor

/-- While a task is in its loop, no more events wait for it than its channel keeps. -/
def KeepsUp (s : Recorder) (moves : List RecorderMove) (i : Nat) : Prop :=
  ∀ earlier, earlier <+: moves → ∀ t, (s.after earlier).tasks[i]? = some t → t.isLive = true →
    (s.after earlier).pending t ≤ ((s.after earlier).channels t.channel).capacity

/-- A task for which no more events wait than its channel keeps loses none. -/
theorem not_lagged {channels : Nat → Channel} {moves : List RecorderMove}
    (hkeeps : (new channels).KeepsUp moves i)
    (ht : ((new channels).after moves).tasks[i]? = some t) (skipped : Nat) :
    .lagged skipped ∉ t.reports := by
  induction moves using List.reverseRecOn generalizing t with
  | nil => simp [after, new] at ht
  | append_singleton moves m ih =>
      have hbefore : (new channels).KeepsUp moves i := fun earlier hearlier =>
        hkeeps earlier (hearlier.trans (List.prefix_append _ _))
      have hstep := ((new channels).after moves).steps_step m
      rw [after_concat] at ht
      rcases hstep.task_cases ht with hsame | ⟨a, u, effect, rfl, hu, hmoves⟩ | ⟨k, p, -, -, -, rfl⟩
      · exact ih hbefore hsame
      · have hnone := ih hbefore hu
        cases hmoves with
        | event => simpa [RecordingTask.found] using hnone
        | lagged hlive hheld hold =>
            have hroom := hkeeps moves (List.prefix_append _ _) u hu hlive
            unfold pending at hroom
            unfold Channel.oldest at hold
            omega
        | leave _ _ _ hr => rcases hr with rfl | rfl <;> simpa [RecordingTask.found] using hnone
        | record | heed | finish | handle => exact hnone
      · simp [RecordingTask.begin]

end Recorder

end RobotCell
