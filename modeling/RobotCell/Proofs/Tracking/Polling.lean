import RobotCell.Proofs.Tracking.Recorder

/-!
# RobotCell.Proofs.Tracking.Polling

What the readers of a log get.

A log is read and appended to under one lock, so that its calls come one after the other.  Reading
leaves it as it is: a run is told by its appends and polls, and whatever is read at a point of it is
read from the log as it stands there.

As samples are numbered by their places (`PointerLog.Numbered`), reading from a place on is reading
what has at least this number, and the last sample of a kind is the one with the greatest number.
A reader that goes on behind the last sample it has seen has always received the log up to its next
number (`LogReader.Follows`), and a poll brings it to the end (`LogReader.Follows.poll_eq`).  So it
gets what the tasks of a recorder record (`Recorder.received_polledBy`).

The length of a log is a word, and so is the number that a reader asks for.  The logs of this model
can be longer; where that matters, the bound is a hypothesis.
-/

namespace RobotCell

namespace PointerLog

variable {log log' : PointerLog} {start : Nat} {kind : PointerKind} {sample : PointerSample}

/-! ## Places -/

/-- Reading never starts behind the end. -/
theorem place_le_size (log : PointerLog) (start : Nat) : log.place start ≤ log.samples.size :=
  Nat.min_le_right _ _

/-- A number is cut down to the length of the log, and never further if one of them is a word. -/
theorem place_eq_min (h : start < wordLimit ∨ log.samples.size < wordLimit) :
    log.place start = min start log.samples.size := by
  unfold place
  by_cases hword : start < wordLimit
  · rw [checkedWord_of_lt hword]
    rfl
  · -- the greatest word is no less than the length, and this is where both sides end
    have hsize := h.resolve_left hword
    have hnone : (checkedWord start).toOption = none := by
      rw [checkedWord, if_neg hword]
      rfl
    rw [hnone, Option.getD_none]
    omega

/-- The samples since a position are those behind it. -/
theorem since_eq_drop (h : start < wordLimit ∨ log.samples.size < wordLimit) :
    log.since start = log.samples.toList.drop start := by
  rw [since, place_eq_min h, ← Array.length_toList]
  exact List.drop_eq_drop_min.symm

theorem size_le_of_grows (h : log.samples.toList <+: log'.samples.toList) :
    log.samples.size ≤ log'.samples.size := by
  simpa using h.length_le

/-! ## Numbers -/

/-- The samples are numbered by their places. -/
def Numbered (log : PointerLog) : Prop :=
  log.samples.toList.map (·.seq) = List.range log.samples.size

/-- A log of events in their order is numbered. -/
theorem numbered_of_events {events : List PointerEvent}
    (h : log.samples.toList = events.mapIdx PointerEvent.sample) : log.Numbered := by
  have hsize : log.samples.size = events.length := by
    simpa using congrArg List.length h
  rw [Numbered, h, hsize]
  refine List.ext_getElem (by simp) fun k _ _ => ?_
  simp [PointerEvent.sample]

namespace Numbered

/-- The number of a sample is its place. -/
theorem seq_eq (h : log.Numbered) {k : Nat} (hk : log.samples.toList[k]? = some sample) :
    sample.seq = k := by
  have hseq : (List.range log.samples.size)[k]? = some sample.seq := by
    rw [← h, List.getElem?_map, hk]
    rfl
  obtain ⟨hlt, heq⟩ := List.getElem?_eq_some_iff.mp hseq
  rw [← heq, List.getElem_range]

/-- A number stands for one sample. -/
theorem eq_of_seq_eq (h : log.Numbered) {other : PointerSample}
    (hsample : sample ∈ log.samples.toList) (hother : other ∈ log.samples.toList)
    (heq : sample.seq = other.seq) : sample = other := by
  obtain ⟨k, hk⟩ := List.mem_iff_getElem?.mp hsample
  obtain ⟨j, hj⟩ := List.mem_iff_getElem?.mp hother
  rw [h.seq_eq hk, h.seq_eq hj] at heq
  exact Option.some.inj (hk.symm.trans (heq ▸ hj))

/-- Numbers grow along a log. -/
theorem pairwise_lt (h : log.Numbered) : log.samples.toList.Pairwise (·.seq < ·.seq) := by
  rw [← List.pairwise_map, h]
  exact List.pairwise_lt_range

/-- What stands from a place on has at least its number, and nothing else has. -/
theorem drop_eq_filter (h : log.Numbered) (start : Nat) :
    log.samples.toList.drop start = log.samples.toList.filter (start ≤ ·.seq) := by
  have hbefore : (log.samples.toList.take start).filter (start ≤ ·.seq) = [] := by
    refine List.filter_eq_nil_iff.mpr fun sample hsample => ?_
    obtain ⟨k, hk, rfl⟩ := List.mem_take_iff_getElem.mp hsample
    have hseq := h.seq_eq (List.getElem?_eq_getElem (Nat.lt_of_lt_of_le hk (Nat.min_le_right _ _)))
    have hlt := Nat.lt_of_lt_of_le hk (Nat.min_le_left _ _)
    simp only [decide_eq_true_eq]
    omega
  have hbehind : (log.samples.toList.drop start).filter (start ≤ ·.seq) =
      log.samples.toList.drop start := by
    refine List.filter_eq_self.mpr fun sample hsample => ?_
    obtain ⟨k, hk, rfl⟩ := List.mem_drop_iff_getElem.mp hsample
    have hseq := h.seq_eq (List.getElem?_eq_getElem (show start + k < _ by omega))
    simp only [decide_eq_true_eq]
    omega
  conv_rhs => rw [← List.take_append_drop start log.samples.toList, List.filter_append]
  rw [hbefore, hbehind, List.nil_append]

/-- The samples since a number are those with that number or a later one. -/
theorem since_eq_filter (h : log.Numbered)
    (hword : start < wordLimit ∨ log.samples.size < wordLimit) :
    log.since start = log.samples.toList.filter (start ≤ ·.seq) := by
  rw [since_eq_drop hword, h.drop_eq_filter]

end Numbered

/-! ## Latest samples -/

/-- No sample of a kind is the latest just when there is none. -/
theorem latest?_eq_none_iff :
    log.latest? kind = none ↔ ∀ sample ∈ log.samples.toList, sample.kind ≠ kind := by
  simp [latest?, List.find?_eq_none]

/-- Behind the latest sample of a kind there is no other one. -/
theorem split_of_latest? (h : log.latest? kind = some sample) :
    sample.kind = kind ∧ ∃ before behind, log.samples.toList = before ++ sample :: behind ∧
      ∀ other ∈ behind, other.kind ≠ kind := by
  obtain ⟨hkind, behind, before, hsplit, hbehind⟩ := List.find?_eq_some_iff_append.mp h
  refine ⟨of_decide_eq_true hkind, before.reverse, behind.reverse, ?_, fun other hother => ?_⟩
  · simpa using congrArg List.reverse hsplit
  · simpa using hbehind other (List.mem_reverse.mp hother)

/-- The sample of a kind with the greatest number. -/
def IsLatest (log : PointerLog) (kind : PointerKind) (sample : PointerSample) : Prop :=
  sample ∈ log.samples.toList ∧ sample.kind = kind ∧
    ∀ other ∈ log.samples.toList, other.kind = kind → other.seq ≤ sample.seq

/-- The sample that is found is the latest of its kind. -/
theorem Numbered.isLatest_of_latest? (h : log.Numbered) (hlatest : log.latest? kind = some sample) :
    log.IsLatest kind sample := by
  obtain ⟨hkind, before, behind, hsamples, hbehind⟩ := split_of_latest? hlatest
  have hordered := h.pairwise_lt
  rw [hsamples, List.pairwise_append] at hordered
  refine ⟨by simp [hsamples], hkind, fun other hother hsame => ?_⟩
  rw [hsamples, List.mem_append, List.mem_cons] at hother
  rcases hother with hbefore | rfl | hlater
  · exact Nat.le_of_lt (hordered.2.2 other hbefore sample List.mem_cons_self)
  · exact Nat.le_refl _
  · exact absurd hsame (hbehind other hlater)

/-- The latest sample of a kind is the one with the greatest number. -/
theorem Numbered.latest?_eq_some_iff (h : log.Numbered) :
    log.latest? kind = some sample ↔ log.IsLatest kind sample := by
  refine ⟨h.isLatest_of_latest?, fun ⟨hmem, hkind, hmost⟩ => ?_⟩
  cases hlatest : log.latest? kind with
  | none => exact absurd hkind (latest?_eq_none_iff.mp hlatest sample hmem)
  | some found =>
      obtain ⟨hfound, hsame, hfoundMost⟩ := h.isLatest_of_latest? hlatest
      have hseq := Nat.le_antisymm (hmost found hfound hsame) (hfoundMost sample hmem hkind)
      rw [h.eq_of_seq_eq hfound hmem hseq]

end PointerLog

/-! ## Readers -/

/-- A reader of a log: the number that it asks for next, and what it has received. -/
structure LogReader where
  next : Nat := 0
  received : List PointerSample := []

namespace LogReader

/-- Asks for what is new, and goes on behind the last sample seen. -/
def poll (log : PointerLog) (r : LogReader) : LogReader where
  next := ((log.since r.next).getLast?.map (·.seq + 1)).getD r.next
  received := r.received ++ log.since r.next

/-- A reader that has received all of a log. -/
def atEnd (log : PointerLog) : LogReader := ⟨log.samples.size, log.samples.toList⟩

/-- A reader has received a log up to its next number. -/
structure Follows (r : LogReader) (log : PointerLog) : Prop where
  bounded : r.next ≤ log.samples.size
  received : r.received = log.samples.toList.take r.next

namespace Follows

variable {r : LogReader} {log log' : PointerLog}

/-- A new reader has read nothing. -/
theorem new (log : PointerLog) : Follows {} log :=
  ⟨Nat.zero_le _, rfl⟩

/-- A reader at the end of a log has nothing to read again. -/
theorem atEnd (log : PointerLog) : Follows (.atEnd log) log :=
  ⟨Nat.le_refl _, (List.take_of_length_le (Nat.le_of_eq Array.length_toList)).symm⟩

/-- What is appended later does not matter. -/
theorem mono (h : r.Follows log) (hgrows : log.samples.toList <+: log'.samples.toList) :
    r.Follows log' := by
  refine ⟨Nat.le_trans h.bounded (PointerLog.size_le_of_grows hgrows), ?_⟩
  obtain ⟨later, hlater⟩ := hgrows
  rw [h.received, ← hlater, List.take_append_of_le_length h.bounded]

/-- Its samples have the numbers below the next one, in their order and each once. -/
theorem seqs_eq (h : r.Follows log) (hnumbered : log.Numbered) :
    r.received.map (·.seq) = List.range r.next := by
  rw [h.received, List.map_take, hnumbered, List.take_range, Nat.min_eq_left h.bounded]

/-- What a reader asks for next is behind the last sample it was given, or still is the end. -/
theorem next_poll (h : r.Follows log) (hnumbered : log.Numbered)
    (hlength : log.samples.size < wordLimit) : (r.poll log).next = log.samples.size := by
  rw [poll, PointerLog.since_eq_drop (.inr hlength), List.getLast?_drop, Array.length_toList]
  split
  · -- nothing is new
    exact Nat.le_antisymm h.bounded ‹_›
  · have hlast : log.samples.size - 1 < log.samples.toList.length := by
      rw [Array.length_toList]
      omega
    have hseq := hnumbered.seq_eq (List.getElem?_eq_getElem hlast)
    rw [List.getLast?_eq_getElem?, Array.length_toList, List.getElem?_eq_getElem hlast]
    simp only [Option.map_some, Option.getD_some, hseq]
    omega

/-- A poll brings a reader to the end of the log. -/
theorem poll_eq (h : r.Follows log) (hnumbered : log.Numbered)
    (hlength : log.samples.size < wordLimit) : r.poll log = .atEnd log := by
  have hreceived : (r.poll log).received = log.samples.toList := by
    rw [poll, PointerLog.since_eq_drop (.inr hlength), h.received]
    exact List.take_append_drop _ _
  rw [LogReader.atEnd, ← hreceived, ← h.next_poll hnumbered hlength]

/-- A poll reads what is new and nothing twice. -/
theorem poll (h : r.Follows log) (hnumbered : log.Numbered)
    (hlength : log.samples.size < wordLimit) : (r.poll log).Follows log := by
  rw [h.poll_eq hnumbered hlength]
  exact .atEnd log

end Follows

end LogReader

/-! ## Runs -/

/-- A call that changes a log or what one of its readers has. -/
inductive LogMove where
  | append (e : PointerEvent)
  | poll (reader : Nat)
  deriving DecidableEq

/-- The event that a call appends, if it does. -/
def LogMove.event? : LogMove → Option PointerEvent
  | .append e => some e
  | .poll _ => none

/-- A log and its readers. -/
structure PolledLog where
  log : PointerLog := {}
  readers : Nat → LogReader := fun _ => {}

namespace PolledLog

/-- The log and its readers after a call. -/
def step (s : PolledLog) : LogMove → PolledLog
  | .append e => { s with log := s.log.append e }
  | .poll i =>
    let polled := (s.readers i).poll s.log
    { s with readers := fun other => if other = i then polled else s.readers other }

/-- The log and its readers after calls in turn. -/
def after (s : PolledLog) (moves : List LogMove) : PolledLog := moves.foldl step s

variable {s : PolledLog} {moves : List LogMove}

theorem after_concat (s : PolledLog) (moves : List LogMove) (m : LogMove) :
    s.after (moves ++ [m]) = (s.after moves).step m :=
  List.foldl_append

theorem after_append (s : PolledLog) (moves more : List LogMove) :
    s.after (moves ++ more) = (s.after moves).after more :=
  List.foldl_append

theorem readers_poll_self (s : PolledLog) (i : Nat) :
    (s.step (.poll i)).readers i = (s.readers i).poll s.log := if_pos rfl

/-- A move keeps what the log has. -/
theorem log_grows (s : PolledLog) (m : LogMove) :
    s.log.samples.toList <+: (s.step m).log.samples.toList := by
  cases m with
  | append e => simp [step, PointerLog.append]
  | poll i => exact List.prefix_rfl

/-- So do any moves one after another. -/
theorem log_grows_after (s : PolledLog) (moves : List LogMove) :
    s.log.samples.toList <+: (s.after moves).log.samples.toList := by
  induction moves generalizing s with
  | nil => exact List.prefix_rfl
  | cons m moves ih => exact (s.log_grows m).trans (ih (s.step m))

/-- The log has the events that were appended, one after the other. -/
theorem log_after (moves : List LogMove) :
    (after {} moves).log.samples.toList =
      (moves.filterMap LogMove.event?).mapIdx PointerEvent.sample := by
  induction moves using List.reverseRecOn with
  | nil => rfl
  | append_singleton moves m ih =>
      rw [after_concat, List.filterMap_append]
      cases m with
      | append e => exact PointerLog.samples_append e ih
      | poll i =>
          rw [List.filterMap_cons_none rfl, List.filterMap_nil, List.append_nil]
          exact ih

/-- The log is numbered after any moves. -/
theorem numbered_after (moves : List LogMove) : (after {} moves).log.Numbered :=
  PointerLog.numbered_of_events (log_after moves)

/-- Readers follow the log through every call. -/
theorem follows_step {i : Nat} (h : (s.readers i).Follows s.log) (hnumbered : s.log.Numbered)
    (hlength : s.log.samples.size < wordLimit) (m : LogMove) :
    ((s.step m).readers i).Follows (s.step m).log := by
  cases m with
  | append e => exact h.mono (s.log_grows (.append e))
  | poll j =>
      by_cases hij : i = j
      · subst hij
        rw [readers_poll_self]
        exact h.poll hnumbered hlength
      · simpa [step, hij] using h

/-- Every reader follows the log after any moves. -/
theorem follows_after (hlength : (after {} moves).log.samples.size < wordLimit) (i : Nat) :
    ((after {} moves).readers i).Follows (after {} moves).log := by
  induction moves using List.reverseRecOn with
  | nil => exact .new _
  | append_singleton moves m ih =>
      rw [after_concat] at hlength ⊢
      have hshorter : (after {} moves).log.samples.size < wordLimit :=
        Nat.lt_of_le_of_lt (PointerLog.size_le_of_grows ((after {} moves).log_grows m)) hlength
      exact follows_step (ih hshorter) (numbered_after moves) hshorter m

end PolledLog

/-! ## Recorders -/

namespace Recorder

variable {s : Recorder}

/-- A reader that polls the log of a recorder behind each of some batches of moves. -/
def polledBy (s : Recorder) (r : LogReader) : List (List RecorderMove) → LogReader
  | [] => r
  | moves :: batches => (s.after moves).polledBy (r.poll (s.after moves).log) batches

/-- A reader that is at the end of the log is there again after every poll. -/
theorem Sound.polledBy_atEnd (h : s.Sound) {batches : List (List RecorderMove)}
    (hlength : (s.after batches.flatten).log.samples.size < wordLimit) :
    s.polledBy (.atEnd s.log) batches = .atEnd (s.after batches.flatten).log := by
  induction batches generalizing s with
  | nil => rfl
  | cons moves batches ih =>
      rw [List.flatten_cons, after_append] at hlength ⊢
      have hsound := h.after moves
      have hgrows := log_grows_after (s.after moves) batches.flatten
      have hshorter : (s.after moves).log.samples.size < wordLimit :=
        Nat.lt_of_le_of_lt (PointerLog.size_le_of_grows hgrows) hlength
      have hfollows := (LogReader.Follows.atEnd s.log).mono (log_grows_after s moves)
      rw [polledBy, hfollows.poll_eq (PointerLog.numbered_of_events hsound.log) hshorter]
      exact ih hsound hlength

/-- A reader that polls the log of a recorder between its moves has received, behind the last poll,
what the tasks have recorded, one after the other. -/
theorem received_polledBy {channels : Nat → Channel} {batches : List (List RecorderMove)}
    (h : (new channels).after batches.flatten = s) (hlength : s.log.samples.size < wordLimit) :
    ((new channels).polledBy {} batches).received =
      (s.tasks.flatMap (·.recorded)).mapIdx PointerEvent.sample := by
  subst h
  have hsound := Sound.new channels
  rw [← (hsound.after batches.flatten).log]
  exact congrArg LogReader.received (hsound.polledBy_atEnd hlength)

end Recorder

/-! ## The main result -/

/-- **Polling a log loses nothing**, whatever is appended and read in between.

The log has the appended events in their order; the sample at a place has the place for its number,
and stays as it is.  Reading from a number on never starts behind the end and gives just the samples
that have at least this number, in their order; none of them at the end or behind it; and the same
ones first when it is repeated later.  The latest sample of a kind is the one with the greatest
number, if there is one.  Every reader has received the log up to the next number that it asks for,
each sample once and in their order, and a poll brings it to the end. -/
theorem polling_lossless {moves : List LogMove} {s : PolledLog}
    (h : PolledLog.after {} moves = s) :
    s.log.samples.toList = (moves.filterMap LogMove.event?).mapIdx PointerEvent.sample ∧
    (∀ (k : Nat) (sample : PointerSample), s.log.samples[k]? = some sample →
      sample.seq = k ∧ ∀ more, (s.after more).log.samples[k]? = some sample) ∧
    (∀ start, start < wordLimit →
      s.log.place start ≤ s.log.samples.size ∧
      s.log.since start = s.log.samples.toList.filter (start ≤ ·.seq) ∧
      (s.log.since start).Pairwise (·.seq < ·.seq) ∧
      (s.log.samples.size ≤ start → s.log.since start = []) ∧
      ∀ more, s.log.since start <+: (s.after more).log.since start) ∧
    (∀ (kind : PointerKind) (sample : PointerSample),
      s.log.latest? kind = some sample ↔ s.log.IsLatest kind sample) ∧
    (∀ kind, s.log.latest? kind = none ↔ ∀ sample ∈ s.log.samples.toList, sample.kind ≠ kind) ∧
    (s.log.samples.size < wordLimit → ∀ i,
      (s.readers i).next ≤ s.log.samples.size ∧
      (s.readers i).received = s.log.samples.toList.take (s.readers i).next ∧
      (s.readers i).received.map (·.seq) = List.range (s.readers i).next ∧
      ((s.step (.poll i)).readers i).received = s.log.samples.toList ∧
      ((s.step (.poll i)).readers i).next = s.log.samples.size) := by
  subst h
  have hnumbered := PolledLog.numbered_after moves
  refine ⟨PolledLog.log_after moves, fun k sample hk => ⟨?_, fun more => ?_⟩,
    fun start hstart => ?_, fun kind sample => hnumbered.latest?_eq_some_iff,
    fun kind => PointerLog.latest?_eq_none_iff, fun hlength i => ?_⟩
  · rw [← Array.getElem?_toList] at hk
    exact hnumbered.seq_eq hk
  · rw [← Array.getElem?_toList] at hk ⊢
    obtain ⟨hlt, rfl⟩ := List.getElem?_eq_some_iff.mp hk
    exact List.prefix_iff_getElem?.mp (PolledLog.log_grows_after _ more) k hlt
  · rw [hnumbered.since_eq_filter (.inl hstart)]
    refine ⟨PointerLog.place_le_size _ _, rfl, hnumbered.pairwise_lt.filter _, fun hend => ?_,
      fun more => ?_⟩
    · rw [← hnumbered.drop_eq_filter, List.drop_eq_nil_iff]
      simpa using hend
    · rw [← PolledLog.after_append, (PolledLog.numbered_after _).since_eq_filter (.inl hstart),
        PolledLog.after_append]
      exact (PolledLog.log_grows_after _ more).filter _
  · have hfollows := PolledLog.follows_after hlength i
    rw [PolledLog.readers_poll_self, hfollows.poll_eq hnumbered hlength]
    exact ⟨hfollows.bounded, hfollows.received, hfollows.seqs_eq hnumbered, rfl, rfl⟩

/-- A reader polls the empty log, one sample, and two at the end of the log; another one polls once
in between. -/
def pollMoves : List LogMove :=
  [.poll 0, .append ⟨.program, "MainModule", 3⟩, .poll 0, .poll 1,
    .append ⟨.motion, "MainModule", 2⟩, .append ⟨.program, "MainModule", 4⟩, .poll 0, .poll 0]

/-- The first reader has everything once, and the second one lacks what came after its poll. -/
theorem polling_lossless_at_the_end :
    ∃ s, PolledLog.after {} pollMoves = s ∧
      s.log.samples.size < wordLimit ∧ wordLimit - 1 < wordLimit ∧
      s.log.since (wordLimit - 1) = [] ∧
      (s.log.latest? .program).map (fun sample => (sample.seq, sample.row)) = some (2, 4) ∧
      (s.readers 0).received.map (fun sample => (sample.seq, sample.row)) =
        [(0, 3), (1, 2), (2, 4)] ∧
      (s.readers 1).received.map (fun sample => (sample.seq, sample.row)) = [(0, 3)] ∧
      (s.readers 1).received.map (·.seq) = List.range (s.readers 1).next ∧
      ((s.step (.poll 1)).readers 1).received = s.log.samples.toList := by
  have hlength : (PolledLog.after {} pollMoves).log.samples.size < wordLimit := by decide +kernel
  have hword : wordLimit - 1 < wordLimit := by decide
  obtain ⟨-, -, hsince, -, -, hreaders⟩ := @polling_lossless pollMoves _ rfl
  obtain ⟨-, -, -, hbehind, -⟩ := hsince (wordLimit - 1) hword
  obtain ⟨-, -, hseqs, hall, -⟩ := hreaders hlength 1
  exact ⟨_, rfl, hlength, hword, hbehind (by decide +kernel), by decide +kernel, by decide +kernel,
    by decide +kernel, hseqs, hall⟩

end RobotCell
