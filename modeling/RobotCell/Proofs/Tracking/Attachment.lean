import RobotCell.Proofs.Tracking.Recorder

/-!
# RobotCell.Proofs.Tracking.Attachment

What attachments leave in the log.

Attachments record one after the other, each exactly what its receiver was given between its start
and the end of its final drain (`Recorder.Contributes`), and none records again after its task has
ended.  A detach that waits for an idle task can always return, and then the recorder is where
`Tracker.detach` leads (`Recorder.exists_detach`).
-/

namespace RobotCell

/-! ## Detaching -/

namespace Tracker

variable {c : Channel} {log : PointerLog} {cursor : Nat} {r : Received}

theorem polls_none (c : Channel) (n : Nat) (log : PointerLog) :
    Tracker.polls c n ⟨log, none⟩ = ⟨log, none⟩ := by
  induction n with
  | zero => rfl
  | succ n ih => exact ih

/-- Nothing is recorded at the end of a channel. -/
theorem log_polls_of_end (hr : r = .empty ∨ r = .closed) (h : c.receive cursor = (r, cursor))
    (n : Nat) : (Tracker.polls c n ⟨log, some cursor⟩).log = log := by
  induction n with
  | zero => rfl
  | succ n ih =>
      rcases hr with rfl | rfl
      · have hpoll : Tracker.poll c ⟨log, some cursor⟩ = ⟨log, some cursor⟩ := by
          simp only [poll, h]
        rw [polls, hpoll, ih]
      · have hpoll : Tracker.poll c ⟨log, some cursor⟩ = ⟨log, none⟩ := by
          simp only [poll, h]
        rw [polls, hpoll, polls_none]

end Tracker

namespace Recorder

variable {s : Recorder} {i : Nat} {t t' : RecordingTask} {a : TaskMove} {effect : TaskEffect}

theorem step_of_move (ht : s.tasks[i]? = some t)
    (hmove : t.move (s.channels t.channel) a = some (t', effect)) :
    s.step (.task i a) = { s.apply effect with tasks := s.tasks.set i t' } := by
  simp only [step, moveTask, ht, hmove]

theorem getElem?_step_of_move (ht : s.tasks[i]? = some t)
    (hmove : t.move (s.channels t.channel) a = some (t', effect)) :
    (s.step (.task i a)).tasks[i]? = some t' := by
  rw [step_of_move ht hmove]
  exact List.getElem?_set_self (List.getElem?_eq_some_iff.mp ht).1

theorem channels_step_of_move (ht : s.tasks[i]? = some t)
    (hmove : t.move (s.channels t.channel) a = some (t', effect)) :
    (s.step (.task i a)).channels = s.channels := by
  rw [step_of_move ht hmove]
  exact apply_channels s effect

theorem log_step_of_move (ht : s.tasks[i]? = some t)
    (hmove : t.move (s.channels t.channel) a = some (t', effect)) :
    (s.step (.task i a)).log = (s.apply effect).log := by
  rw [step_of_move ht hmove]

/-- Some moves lead a task out of its loop, with its handle as it was, and leave a log. -/
def Drains (s : Recorder) (i : Nat) (handle : HandleState) (log : PointerLog) : Prop :=
  ∃ moves t, (s.after moves).tasks[i]? = some t ∧ t.phase = .leaving ∧ t.handle = handle ∧
    (s.after moves).log = log

theorem Drains.of_step {handle : HandleState} {log : PointerLog} {m : RecorderMove}
    (h : (s.step m).Drains i handle log) : s.Drains i handle log := by
  obtain ⟨moves, t, ht, hphase, hhandle, hlog⟩ := h
  exact ⟨m :: moves, t, ht, hphase, hhandle, hlog⟩

/-- A draining task leaves its loop at the end of its channel. -/
theorem drains_of_end (ht : s.tasks[i]? = some t) (hphase : t.phase = .draining)
    (hheld : t.held = none) (hend : (s.channels t.channel).sent.size ≤ t.cursor) (n : Nat) :
    s.Drains i t.handle (Tracker.polls (s.channels t.channel) n ⟨s.log, some t.cursor⟩).log := by
  rcases (s.channels t.channel).receive_cases t.cursor with
    ⟨hold, -⟩ | ⟨e, he, -⟩ | ⟨-, r, hr, hfound⟩
  · unfold Channel.oldest at hold
    omega
  · have := (Array.getElem?_eq_some_iff.mp he).1
    omega
  · have hmove : t.move (s.channels t.channel) .receive =
        some ({ t.found r t.cursor with phase := .leaving }, .none) := by
      rcases hr with rfl | rfl
      all_goals simp [RecordingTask.move, RecordingTask.receive, RecordingTask.isLive, hphase,
        hheld, hfound]
    refine ⟨[.task i .receive], _, getElem?_step_of_move ht hmove, rfl, rfl, ?_⟩
    rw [Tracker.log_polls_of_end hr hfound, after_cons, step_of_move ht hmove]
    rfl

/-- A draining task records what the tracker records, and leaves its loop. -/
theorem drains_of_draining (n : Nat) (ht : s.tasks[i]? = some t) (hphase : t.phase = .draining)
    (hheld : t.held = none) (hn : (s.channels t.channel).sent.size ≤ t.cursor + n) :
    s.Drains i t.handle (Tracker.polls (s.channels t.channel) n ⟨s.log, some t.cursor⟩).log := by
  induction n generalizing s t with
  | zero => exact drains_of_end ht hphase hheld hn 0
  | succ n ih =>
      rcases (s.channels t.channel).receive_cases t.cursor with
        ⟨hold, hfound⟩ | ⟨e, he, hfound⟩ | ⟨hend, -⟩
      · let skipped := (s.channels t.channel).oldest - t.cursor
        have hmove : t.move (s.channels t.channel) .receive =
            some (t.found (.lagged skipped) (s.channels t.channel).oldest, .none) := by
          simp [RecordingTask.move, RecordingTask.receive, RecordingTask.isLive, hphase, hheld,
            hfound, skipped]
        have hpoll : Tracker.poll (s.channels t.channel) ⟨s.log, some t.cursor⟩ =
            ⟨s.log, some (s.channels t.channel).oldest⟩ := by
          simp only [Tracker.poll, hfound]
        have hrest := ih (getElem?_step_of_move ht hmove) hphase hheld (by
          rw [channels_step_of_move ht hmove]
          simp only [RecordingTask.found]
          omega)
        rw [channels_step_of_move ht hmove, log_step_of_move ht hmove] at hrest
        rw [Tracker.polls, hpoll]
        exact hrest.of_step
      · let received : RecordingTask :=
          { t.found (.event e) (t.cursor + 1) with held := some e }
        have hmove : t.move (s.channels t.channel) .receive = some (received, .none) := by
          simp [RecordingTask.move, RecordingTask.receive, RecordingTask.isLive, hphase, hheld,
            hfound, received]
        have ht' := getElem?_step_of_move ht hmove
        have hrecord : received.move ((s.step (.task i .receive)).channels received.channel)
            .record = some ({ received with held := none, recorded := t.recorded ++ [e] },
              .append e) := rfl
        have hpoll : Tracker.poll (s.channels t.channel) ⟨s.log, some t.cursor⟩ =
            ⟨s.log.append e, some (t.cursor + 1)⟩ := by
          simp only [Tracker.poll, hfound]
        have hrest := ih (getElem?_step_of_move ht' hrecord) hphase rfl (by
          rw [channels_step_of_move ht' hrecord, channels_step_of_move ht hmove]
          simp only [received, RecordingTask.found]
          omega)
        rw [channels_step_of_move ht' hrecord, channels_step_of_move ht hmove,
          log_step_of_move ht' hrecord] at hrest
        rw [Tracker.polls, hpoll]
        have hlog : ((s.step (.task i .receive)).apply (.append e)).log = s.log.append e := by
          rw [apply, log_step_of_move ht hmove]
          rfl
        rw [hlog] at hrest
        exact hrest.of_step.of_step
      · exact drains_of_end ht hphase hheld hend (n + 1)

theorem attached_step_of_move (ht : s.tasks[i]? = some t)
    (hmove : t.move (s.channels t.channel) a = some (t', effect)) :
    (s.step (.task i a)).attached = (s.apply effect).attached := by
  rw [step_of_move ht hmove]

/-- While a task is active its receiver is that of the tracker. -/
theorem Sound.tracker_eq (h : s.Sound) (ht : s.tasks[i]? = some t) (hactive : t.isActive = true) :
    s.tracker = ⟨s.log, some t.cursor⟩ := by
  obtain ⟨hlast, hattached⟩ := h.last i t ht hactive
  have hindex : s.tasks.length - 1 = i := by omega
  have hgetLast : s.tasks.getLast? = some t := by rw [List.getLast?_eq_getElem?, hindex, ht]
  simp [tracker, hattached, hgetLast]

/-- An attachment is refused or accepted as the tracker does it. -/
theorem Sound.tracker_attach (h : s.Sound) (k position : Nat) :
    (s.attach k position).map tracker = s.tracker.attach position := by
  cases hattached : s.attached with
  | true =>
      obtain ⟨t, ht, hactive⟩ := h.attached hattached
      obtain ⟨i, ht⟩ := List.mem_iff_getElem?.mp ht
      rw [h.tracker_eq ht hactive, attach, hattached]
      rfl
  | false => simp [attach, tracker, hattached, Tracker.attach, Tracker.isAttached, Except.map,
      RecordingTask.begin]

/-- A task that has left its loop ends, and the detach that waits for it returns. -/
theorem exists_join (ht : s.tasks[i]? = some t) (hphase : t.phase = .leaving)
    (hhandle : t.handle = .detaching) :
    ∃ moves t', (s.after moves).tasks[i]? = some t' ∧ t'.handle = .detached ∧
      (s.after moves).tracker = ⟨s.log, none⟩ := by
  have hfinish : t.move (s.channels t.channel) .finish =
      some ({ t with phase := .ended }, .release) := if_pos hphase
  have ht' := getElem?_step_of_move ht hfinish
  have hjoin : RecordingTask.move ((s.step (.task i .finish)).channels t.channel)
      { t with phase := .ended } .join =
        some ({ t with phase := .ended, handle := .detached }, .none) := if_pos ⟨hhandle, rfl⟩
  refine ⟨[.task i .finish, .task i .join], _, getElem?_step_of_move ht' hjoin, rfl, ?_⟩
  have hattached : (s.step (.task i .finish)).attached = false := by
    rw [attached_step_of_move ht hfinish]
    rfl
  have hlog : (s.step (.task i .finish)).log = s.log := log_step_of_move ht hfinish
  rw [after_cons, after_cons, tracker, after, List.foldl_nil, attached_step_of_move ht' hjoin,
    log_step_of_move ht' hjoin, apply, hattached, hlog]
  rfl

/-- A detach of a task that holds nothing can always return, and then the recorder is where the
detach of the tracker leads. -/
theorem exists_detach (h : s.Sound) (ht : s.tasks[i]? = some t) (hphase : t.phase = .recording)
    (hheld : t.held = none) (hhandle : t.handle = .kept) :
    ∃ moves t', (s.after moves).tasks[i]? = some t' ∧ t'.handle = .detached ∧
      (s.after moves).tracker = s.tracker.detach (s.channels t.channel) := by
  have hdetach : t.move (s.channels t.channel) .detach =
      some ({ t with handle := .detaching }, .none) := if_pos hhandle
  have ht' := getElem?_step_of_move ht hdetach
  have hheed : RecordingTask.move ((s.step (.task i .detach)).channels t.channel)
      { t with handle := .detaching } .heed =
        some ({ t with handle := .detaching, phase := .draining }, .none) :=
    if_pos ⟨hphase, hheld, rfl⟩
  have hchannels := (channels_step_of_move ht' hheed).trans (channels_step_of_move ht hdetach)
  have hlog : ((s.step (.task i .detach)).step (.task i .heed)).log = s.log :=
    (log_step_of_move ht' hheed).trans (log_step_of_move ht hdetach)
  have hdrains := drains_of_draining ((s.channels t.channel).sent.size - t.cursor + 2)
    (getElem?_step_of_move ht' hheed) rfl hheld (by
      simp only [hchannels]
      omega)
  obtain ⟨drain, u, hu, hleaving, hdetaching, hdrained⟩ := hdrains.of_step.of_step
  obtain ⟨rest, t', ht', hdetached, htracker⟩ := exists_join hu hleaving hdetaching
  refine ⟨drain ++ rest, t', by rwa [after_append], hdetached, ?_⟩
  rw [after_append, htracker, hdrained, hchannels, hlog,
    h.tracker_eq ht (by simp [RecordingTask.isActive, hphase])]
  rfl

/-! ## Contributions -/

/-- What a task has contributed when it has ended: the events of its channel between its start and
the end of its final drain, in their order and each once, but for those told to be lost. -/
structure Contributes (s : Recorder) (moves : List RecorderMove) (i : Nat) (t : RecordingTask) :
    Prop where
  /-- Its receiver was attached at its start. -/
  attached : ∃ before rest, moves = before ++ .attach t.channel t.start :: rest ∧
    (s.after before).tasks.length = i ∧
    t.start ≤ ((s.after before).channels t.channel).sent.size
  /-- Its final drain ended behind everything that was sent until then, with all its records
  made. -/
  drained : ∃ before rest u u', moves = before ++ .task i .receive :: rest ∧
    (s.after before).tasks[i]? = some u ∧ u.isLive = true ∧
    (s.after (before ++ [.task i .receive])).tasks[i]? = some u' ∧ u'.isLive = false ∧
    t = { u' with phase := t.phase, handle := t.handle } ∧
    t.cursor = ((s.after before).channels t.channel).sent.size
  delivered : Delivers ((s.after moves).channels t.channel).sent.toList t.start t.reports t.cursor
  recorded : t.recorded = Received.events t.reports
  ordered : t.recorded.Sublist
    ((((s.after moves).channels t.channel).sent.toList.take t.cursor).drop t.start)
  counted : t.start + t.recorded.length + Received.totalLost t.reports = t.cursor
  /-- Nothing is lost by a task that keeps up. -/
  complete : s.KeepsUp moves i → (∀ skipped, .lagged skipped ∉ t.reports) ∧
    t.recorded = (((s.after moves).channels t.channel).sent.toList.take t.cursor).drop t.start
  /-- It records nothing after that. -/
  silent : ∀ more, ∃ t', (s.after (moves ++ more)).tasks[i]? = some t' ∧ t'.recorded = t.recorded

theorem contributes_of_ended {channels : Nat → Channel} {moves : List RecorderMove}
    (ht : ((new channels).after moves).tasks[i]? = some t) (hended : t.phase = .ended) :
    (new channels).Contributes moves i t := by
  have hsound := (Sound.new channels).after moves
  have htask := hsound.task_of_getElem? ht
  have hleft : t.isLive = false := by simp [RecordingTask.isLive, hended]
  have hrecorded : t.recorded = Received.events t.reports := by
    simpa [htask.left hleft] using htask.recorded
  refine ⟨exists_attach ht, exists_leave ht hleft, htask.delivers, hrecorded, ?_, ?_,
    fun hkeeps => ?_, fun more => ?_⟩
  · rw [hrecorded]
    exact htask.delivers.sublist
  · rw [hrecorded]
    exact htask.delivers.length_add_lost
  · have hnone := not_lagged hkeeps ht
    exact ⟨hnone, hrecorded.trans (htask.delivers.events_eq htask.bounded
      (Received.totalLost_eq_zero hnone))⟩
  · obtain ⟨t', ht', -, heq⟩ := getElem?_after_of_left hsound ht hleft more
    refine ⟨t', by rwa [after_append], ?_⟩
    rw [heq]

end Recorder

/-- **A tracker records exactly what was delivered**, whatever moves are made.

One task at most is active at a time.  The tracker is attached just as long as one is, and then an
attachment is refused and changes nothing.  The log only grows, its samples are numbered by their
places, and it has what the attachments have recorded, one after the other.  When a detach has
returned, or a task has ended otherwise, it has contributed what was sent between its start and the
end of its final drain.  Attaching does what `Tracker.attach` does; a detach of an idle task can
return, and then it has done what `Tracker.detach` does. -/
theorem attachments_record_deliveries {channels : Nat → Channel} {moves : List RecorderMove}
    {s : Recorder} (h : (Recorder.new channels).after moves = s) :
    (∀ (i j : Nat) (t u : RecordingTask), s.tasks[i]? = some t → s.tasks[j]? = some u →
      t.isActive = true → u.isActive = true → i = j) ∧
    (s.attached = true ↔ ∃ t ∈ s.tasks, t.isActive = true) ∧
    (s.attached = true → ∀ k position,
      s.attach k position =
          .error (.wrongState "attach tracker" "detached tracker" "attached") ∧
        s.step (.attach k position) = s) ∧
    (∀ k position, (s.attach k position).map Recorder.tracker = s.tracker.attach position) ∧
    s.log.samples.toList = (s.tasks.flatMap (·.recorded)).mapIdx PointerEvent.sample ∧
    (∀ (k : Nat) (sample : PointerSample), s.log.samples[k]? = some sample → sample.seq = k) ∧
    (∀ more, s.log.samples.toList <+: (s.after more).log.samples.toList) ∧
    ∀ (i : Nat) (t : RecordingTask), s.tasks[i]? = some t →
      (t.handle = .detached → t.phase = .ended) ∧
      (t.phase = .ended → (Recorder.new channels).Contributes moves i t) ∧
      (t.phase = .recording → t.held = none → t.handle = .kept →
        ∃ more t', (s.after more).tasks[i]? = some t' ∧ t'.handle = .detached ∧
          (s.after more).tracker = s.tracker.detach (s.channels t.channel)) := by
  subst h
  have hsound := (Recorder.Sound.new channels).after moves
  refine ⟨fun i j t u ht hu htactive huactive => ?_, ⟨hsound.attached, fun hactive => ?_⟩,
    fun hattached k position => ?_, hsound.tracker_attach, hsound.log, fun k sample hsample => ?_,
    Recorder.log_grows_after _, fun i t ht => ⟨?_, ?_, ?_⟩⟩
  · have hi := (hsound.last i t ht htactive).1
    have hj := (hsound.last j u hu huactive).1
    omega
  · obtain ⟨t, ht, hactive⟩ := hactive
    obtain ⟨i, ht⟩ := List.mem_iff_getElem?.mp ht
    exact (hsound.last i t ht hactive).2
  · have hrefused : ((Recorder.new channels).after moves).attach k position =
        .error (.wrongState "attach tracker" "detached tracker" "attached") := if_pos hattached
    refine ⟨hrefused, ?_⟩
    rw [Recorder.step, hrefused]
    exact ite_self _
  · rw [← Array.getElem?_toList, hsound.log, List.getElem?_mapIdx] at hsample
    obtain ⟨e, -, rfl⟩ := Option.map_eq_some_iff.mp hsample
    rfl
  · exact (hsound.task_of_getElem? ht).detached
  · exact Recorder.contributes_of_ended ht
  · exact Recorder.exists_detach hsound ht

/-- The program pointer at a row. -/
def rowEvent (row : Nat) : PointerEvent := ⟨.program, "MainModule", row⟩

/-- Four events are sent into a channel that keeps two, one more while the detach waits, and the
last one after it has returned. -/
def lateMoves : List RecorderMove :=
  [.attach 0 0, .send 0 (rowEvent 3), .task 0 .receive, .attach 0 1, .send 0 (rowEvent 2),
    .send 0 (rowEvent 4), .send 0 (rowEvent 5), .task 0 .record, .task 0 .detach, .task 0 .heed,
    .task 0 .receive, .task 0 .receive, .task 0 .record, .send 0 (rowEvent 6), .task 0 .receive,
    .task 0 .record, .task 0 .receive, .task 0 .record, .task 0 .receive, .task 0 .finish,
    .task 0 .join, .send 0 (rowEvent 7)]

/-- One event is lost, and the one that is sent during the detach is recorded. -/
theorem attachments_record_deliveries_late :
    ∃ s t, (Recorder.new fun _ => { capacity := 2 }).after lateMoves = s ∧
      s.tasks[0]? = some t ∧ t.handle = .detached ∧ s.attached = false ∧
      t.reports = [.event (rowEvent 3), .lagged 1, .event (rowEvent 4), .event (rowEvent 5),
        .event (rowEvent 6), .empty] ∧
      s.log.samples.toList.map (fun sample => (sample.seq, sample.row)) =
        [(0, 3), (1, 4), (2, 5), (3, 6)] ∧
      (Recorder.new fun _ => { capacity := 2 }).Contributes lateMoves 0 t := by
  let channels : Nat → Channel := fun _ => { capacity := 2 }
  have hlast : (((Recorder.new channels).after lateMoves).tasks[0]?).map
      (fun t => (t.handle, t.phase, t.reports)) =
        some (.detached, .ended, [.event (rowEvent 3), .lagged 1, .event (rowEvent 4),
          .event (rowEvent 5), .event (rowEvent 6), .empty]) := by decide +kernel
  obtain ⟨t, ht, heq⟩ := Option.map_eq_some_iff.mp hlast
  simp only [Prod.mk.injEq] at heq
  obtain ⟨hdetached, hended, hreports⟩ := heq
  obtain ⟨-, -, -, -, -, -, -, htasks⟩ := @attachments_record_deliveries channels lateMoves _ rfl
  exact ⟨_, t, rfl, ht, hdetached, by decide +kernel, hreports, by decide +kernel,
    (htasks 0 t ht).2.1 hended⟩

end RobotCell
