import FluxonAssist.Proofs.RescanLog

/-!
# When pending scans are done

A tick scans a changed document only with the text of its last event, and only if that event is a
change at least the quiet period ago. So a change is scanned at most once, and never if another
event of its document comes within the quiet period.

A scan that is ready waits for the next tick, and every event of any document starts the timer anew.
While a ready scan waits, each window as long as the timer holds an event. Without events it is done
in time; under events that keep coming it can wait for ever, `busyRun_waits`.
-/
set_option autoImplicit false
namespace FluxonAssist.Rescan

variable {entries : List Entry} {state : Rescan} {uri : Uri} {scan : PendingScan}

/-! ## What is pending after a step -/

theorem pending_handle (state : Rescan) (event : Event) (uri : Uri) :
    (state.handle event).2.pending.get? uri =
      if uri = event.uri then event.queued state.now else state.pending.get? uri := by
  cases event with
  | opened opened text => exact Table.get?_erase state.pending opened uri
  | changed changed text => exact Table.get?_insert state.pending changed uri ⟨state.now, text⟩
  | closed closed => exact Table.get?_erase state.pending closed uri

theorem pending_tick (state : Rescan) (distinct : state.pending.Distinct) (time : Nat) (uri : Uri) :
    (state.tick time).2.pending.get? uri =
      (state.pending.get? uri).filter fun scan => !isReady time scan :=
  Table.get?_filter state.pending distinct _ uri

theorem isReady_iff (time : Nat) (scan : PendingScan) :
    isReady time scan = true ↔ scan.lastChange + quietPeriod ≤ time := by
  simp [isReady]

theorem Unfolds.distinct (unfolds : Unfolds entries state) : state.pending.Distinct := by
  induction unfolds with
  | start => exact List.nodup_nil
  | handle before event ih =>
      cases event with
      | opened uri text => exact ih.erase uri
      | changed uri text => exact ih.insert uri _
      | closed uri => exact ih.erase uri
  | tick before next due ih => exact ih.filter _
  | wait before time onward early ih => exact ih

theorem nextTick_of_pending (waits : state.pending.get? uri = some scan) :
    state.restartTimer.nextTick = some (state.now + tickPeriod) := by
  cases pending : state.pending with
  | nil =>
      rw [pending] at waits
      cases waits
  | cons row rest => simp [restartTimer, pending]

theorem nextTick_handle_of_pending {event : Event}
    (waits : (state.handle event).2.pending.get? uri = some scan) :
    (state.handle event).2.nextTick = some (state.now + tickPeriod) := by
  obtain ⟨pending, restarted⟩ := handle_restarts state event
  rw [restarted] at waits ⊢
  have runs := nextTick_of_pending waits
  exact runs

/-- The timer runs while a scan is pending. -/
theorem Unfolds.timer_runs (unfolds : Unfolds entries state)
    (waits : state.pending.get? uri = some scan) : ∃ next, state.nextTick = some next := by
  induction unfolds with
  | start => cases waits
  | handle before event ih => exact ⟨_, nextTick_handle_of_pending waits⟩
  | tick before next due ih => exact ⟨_, nextTick_of_pending waits⟩
  | wait before time onward early ih => exact ih waits

/-! ## Times of the log -/

theorem time_tickEntries {time : Nat} {entry : Entry} (member : entry ∈ state.tickEntries time) :
    entry.time = time := by
  obtain ⟨row, -, rfl⟩ := List.mem_map.mp member
  rfl

theorem Unfolds.time_le_now (unfolds : Unfolds entries state) {entry : Entry}
    (member : entry ∈ entries) : entry.time ≤ state.now := by
  induction unfolds with
  | start => cases member
  | handle before event ih =>
      rw [now_handle]
      rcases List.mem_append.mp member with earlier | new
      · exact ih earlier
      · rw [List.mem_singleton.mp new]
        exact Nat.le_refl _
  | tick before next due ih =>
      rcases List.mem_append.mp member with earlier | new
      · have passed := ih earlier
        have notEnded := before.now_lt_nextTick due
        rw [now_tick]
        omega
      · exact Nat.le_of_eq (time_tickEntries new)
  | wait before time onward early ih => exact Nat.le_trans (ih member) onward

theorem Unfolds.times_ordered (unfolds : Unfolds entries state) :
    entries.Pairwise fun earlier later => earlier.time ≤ later.time := by
  induction unfolds with
  | start => exact List.Pairwise.nil
  | handle before event ih =>
      refine List.pairwise_append.mpr ⟨ih, List.pairwise_singleton _ _, ?_⟩
      intro earlier member later new
      rw [List.mem_singleton.mp new]
      exact before.time_le_now member
  | @tick entries state before next due ih =>
      refine List.pairwise_append.mpr ⟨ih, ?_, ?_⟩
      · refine List.pairwise_of_forall_mem_list ?_
        intro first memberFirst second memberSecond
        have sameTime : first.time = second.time :=
          (time_tickEntries memberFirst).trans (time_tickEntries memberSecond).symm
        exact Nat.le_of_eq sameTime
      · intro earlier member later new
        have passed := before.time_le_now member
        have notEnded := before.now_lt_nextTick due
        rw [time_tickEntries new]
        omega
  | wait before time onward early ih => exact ih

theorem rel_of_pairwise {α : Type} {relation : α → α → Prop} {list : List α}
    (ordered : list.Pairwise relation) {i j : Nat} {a b : α} (below : i < j)
    (first : list[i]? = some a) (second : list[j]? = some b) : relation a b := by
  obtain ⟨insideFirst, rfl⟩ := List.getElem?_eq_some_iff.mp first
  obtain ⟨insideSecond, rfl⟩ := List.getElem?_eq_some_iff.mp second
  exact List.pairwise_iff_getElem.mp ordered i j insideFirst insideSecond below

/-! ## Which change a scan is about -/

/-- Entry `i` of the log is the change that asks for the scan, and no entry between it and entry `j`
is about its document. -/
structure QueuedAt (entries : List Entry) (uri : Uri) (scan : PendingScan) (i j : Nat) : Prop where
  before : i < j
  queued : entries[i]? = some (.handled scan.lastChange (.changed uri scan.text))
  silent : ∀ k, i < k → k < j → ∀ entry, entries[k]? = some entry → entry.uri ≠ uri

theorem QueuedAt.append {i j : Nat} (queuedAt : QueuedAt entries uri scan i j)
    (inside : j ≤ entries.length) (new : List Entry) : QueuedAt (entries ++ new) uri scan i j := by
  have before := queuedAt.before
  refine ⟨before, ?_, ?_⟩
  · rw [List.getElem?_append_left (by omega)]
    exact queuedAt.queued
  · intro k above below entry found
    rw [List.getElem?_append_left (by omega)] at found
    exact queuedAt.silent k above below entry found

/-- New entries about other documents leave the last change of a document in place. -/
theorem QueuedAt.extend {new : List Entry} {i count : Nat}
    (queuedAt : QueuedAt entries uri scan i entries.length)
    (others : ∀ k < count, ∀ entry, new[k]? = some entry → entry.uri ≠ uri) :
    QueuedAt (entries ++ new) uri scan i (entries.length + count) := by
  have before := queuedAt.before
  refine ⟨by omega, (queuedAt.append (Nat.le_refl _) new).queued, ?_⟩
  intro k above below entry found
  by_cases old : k < entries.length
  · rw [List.getElem?_append_left old] at found
    exact queuedAt.silent k above old entry found
  · rw [List.getElem?_append_right (by omega)] at found
    exact others (k - entries.length) (by omega) entry found

theorem tickEntries_ready (distinct : state.pending.Distinct) {time : Nat} {entry : Entry}
    (member : entry ∈ state.tickEntries time) :
    ∃ scan, state.pending.get? entry.uri = some scan ∧ isReady time scan = true ∧
      entry = .rescanned time entry.uri scan.text := by
  obtain ⟨⟨uri, scan⟩, ready, rfl⟩ := List.mem_map.mp member
  obtain ⟨pending, ready⟩ := List.mem_filter.mp ready
  exact ⟨scan, distinct.get?_of_mem pending, ready, rfl⟩

theorem tickEntries_uris (distinct : state.pending.Distinct) (time : Nat) :
    (state.tickEntries time).Pairwise fun first second => first.uri ≠ second.uri := by
  refine List.pairwise_map.mpr ?_
  exact List.pairwise_map.mp (distinct.filter fun row => isReady time row.2)

/-- The scan that is pending for a document is that of the last event of the document. -/
theorem Unfolds.pending_queued (unfolds : Unfolds entries state)
    (waits : state.pending.get? uri = some scan) :
    ∃ i, QueuedAt entries uri scan i entries.length := by
  induction unfolds with
  | start => cases waits
  | @handle entries state before event ih =>
      rw [pending_handle] at waits
      rw [List.length_append, List.length_singleton]
      by_cases own : uri = event.uri
      · rw [if_pos own] at waits
        cases event with
        | changed changed text =>
            cases own
            cases waits
            refine ⟨entries.length, by omega, by simp [Event.uri], ?_⟩
            intro k above below
            omega
        | opened opened text => cases waits
        | closed closed => cases waits
      · rw [if_neg own] at waits
        obtain ⟨i, queuedAt⟩ := ih waits
        refine ⟨i, queuedAt.extend ?_⟩
        intro k below entry found
        have new := List.mem_of_getElem? found
        rw [List.mem_singleton.mp new]
        exact Ne.symm own
  | @tick entries state before next due ih =>
      rw [pending_tick _ before.distinct] at waits
      obtain ⟨found, notReady⟩ := Option.filter_eq_some_iff.mp waits
      obtain ⟨i, queuedAt⟩ := ih found
      rw [List.length_append]
      refine ⟨i, queuedAt.extend ?_⟩
      intro k below entry new same
      obtain ⟨other, pending, ready, -⟩ :=
        tickEntries_ready before.distinct (List.mem_of_getElem? new)
      -- a scan of this document at the tick would be the one that the tick leaves
      rw [same, found] at pending
      cases pending
      rw [ready] at notReady
      cases notReady
  | wait before time onward early ih => exact ih waits

/-- A tick scans a document with the text of its last event, a change that is old enough. -/
theorem Unfolds.rescanned_queued (unfolds : Unfolds entries state) {j time : Nat} {text : List Char}
    (scanned : entries[j]? = some (.rescanned time uri text)) :
    ∃ i change, QueuedAt entries uri ⟨change, text⟩ i j ∧ change + quietPeriod ≤ time := by
  induction unfolds with
  | start => cases scanned
  | @handle entries state before event ih =>
      by_cases old : j < entries.length
      · rw [List.getElem?_append_left old] at scanned
        obtain ⟨i, change, queuedAt, aged⟩ := ih scanned
        exact ⟨i, change, queuedAt.append (by omega) _, aged⟩
      · rw [List.getElem?_append_right (by omega)] at scanned
        cases List.mem_singleton.mp (List.mem_of_getElem? scanned)
  | @tick entries state before next due ih =>
      by_cases old : j < entries.length
      · rw [List.getElem?_append_left old] at scanned
        obtain ⟨i, change, queuedAt, aged⟩ := ih scanned
        exact ⟨i, change, queuedAt.append (by omega) _, aged⟩
      · rw [List.getElem?_append_right (by omega)] at scanned
        obtain ⟨⟨change, kept⟩, pending, ready, same⟩ :=
          tickEntries_ready before.distinct (List.mem_of_getElem? scanned)
        cases same
        obtain ⟨i, queuedAt⟩ := before.pending_queued pending
        -- the entries of the same tick before this one are about other documents
        have position : j = entries.length + (j - entries.length) := by omega
        refine ⟨i, change, ?_, (isReady_iff _ _).mp ready⟩
        rw [position]
        refine queuedAt.extend ?_
        intro k below entry found
        exact rel_of_pairwise (tickEntries_uris before.distinct _) below found scanned
  | wait before time onward early ih => exact ih scanned

/-- Entry `j` of the log is a tick's scan with the text of the change at entry `i`, and that change
is the last event of the document before it. -/
def ScanOf (entries : List Entry) (i j : Nat) : Prop :=
  ∃ change time uri text, i < j ∧
    entries[i]? = some (.handled change (.changed uri text)) ∧
    entries[j]? = some (.rescanned time uri text) ∧
    ∀ k, i < k → k < j → ∀ moment event, entries[k]? = some (.handled moment event) →
      event.uri ≠ uri

theorem ScanOf.change_unique {i i' j : Nat} (scanOf : ScanOf entries i j)
    (again : ScanOf entries i' j) : i' ≤ i := by
  obtain ⟨change, time, uri, text, before, changed, scanned, last⟩ := scanOf
  obtain ⟨change', time', uri', text', before', changed', scanned', last'⟩ := again
  cases scanned.symm.trans scanned'
  by_cases above : i < i'
  · exact absurd rfl (last i' above before' _ _ changed')
  · omega

/-- No second scan comes between a change and its scan, which is never early. -/
theorem Unfolds.scanOf_queued (unfolds : Unfolds entries state) {i j : Nat}
    (scanOf : ScanOf entries i j) :
    ∃ change time uri text, QueuedAt entries uri ⟨change, text⟩ i j ∧
      entries[j]? = some (.rescanned time uri text) ∧ change + quietPeriod ≤ time := by
  obtain ⟨change, time, uri, text, before, changed, scanned, last⟩ := scanOf
  obtain ⟨source, original, queuedAt, aged⟩ := unfolds.rescanned_queued scanned
  have same : source = i := by
    rcases Nat.lt_trichotomy source i with below | same | above
    · exact absurd rfl (queuedAt.silent i below before _ changed)
    · exact same
    · exact absurd rfl (last source above queuedAt.before _ _ queuedAt.queued)
  subst same
  exact ⟨original, time, uri, text, queuedAt, scanned, aged⟩

theorem Unfolds.scanOf_le (unfolds : Unfolds entries state) {i j j' : Nat}
    (scanOf : ScanOf entries i j) (again : ScanOf entries i j') : j' ≤ j := by
  obtain ⟨change, time, uri, text, queuedAt, scanned, -⟩ := unfolds.scanOf_queued scanOf
  obtain ⟨change', time', uri', text', queuedAt', -, -⟩ := unfolds.scanOf_queued again
  have sameUri : uri = uri' := by
    have same := queuedAt.queued.symm.trans queuedAt'.queued
    simp only [Option.some.injEq, Entry.handled.injEq, Event.changed.injEq] at same
    exact same.2.1
  by_cases later : j < j'
  · exact absurd sameUri (queuedAt'.silent j queuedAt.before later _ scanned)
  · omega

/-- A change that is followed too early by another event of its document is never scanned. -/
theorem Unfolds.not_scanOf_superseded (unfolds : Unfolds entries state)
    {i k change moment : Nat} {text : List Char} {event : Event}
    (changed : entries[i]? = some (.handled change (.changed uri text)))
    (next : entries[k]? = some (.handled moment event)) (after : i < k) (own : event.uri = uri)
    (early : moment < change + quietPeriod) (j : Nat) : ¬ ScanOf entries i j := by
  intro scanOf
  obtain ⟨change', time, uri', text', queuedAt, scanned, aged⟩ := unfolds.scanOf_queued scanOf
  have same := changed.symm.trans queuedAt.queued
  simp only [Option.some.injEq, Entry.handled.injEq, Event.changed.injEq] at same
  obtain ⟨rfl, rfl, -⟩ := same
  rcases Nat.lt_trichotomy k j with below | rfl | above
  · exact queuedAt.silent k after below _ next own
  · cases next.symm.trans scanned
  · have ordered : time ≤ moment := rel_of_pairwise unfolds.times_ordered above scanned next
    omega

/-! ## How long a scan stays pending -/

/-- While a ready scan waits for a tick, each window as long as the timer holds an event. -/
theorem Unfolds.event_in_window (unfolds : Unfolds entries state) {next start : Nat}
    (waits : state.pending.get? uri = some scan) (runs : state.nextTick = some next)
    (ready : scan.lastChange + quietPeriod ≤ start) (inside : start + tickPeriod < next) :
    ∃ time event, .handled time event ∈ entries ∧ start < time ∧ time < start + tickPeriod := by
  induction unfolds generalizing next with
  | start => cases waits
  | @handle entries state before event ih =>
      rw [nextTick_handle runs] at inside
      rw [pending_handle] at waits
      by_cases own : uri = event.uri
      · -- the scan was queued just now, so no window is due
        rw [if_pos own] at waits
        cases event with
        | changed changed text =>
            cases waits
            dsimp only at ready
            omega
        | opened opened text => cases waits
        | closed closed => cases waits
      · rw [if_neg own] at waits
        obtain ⟨last, ran⟩ := before.timer_runs waits
        have notEnded := before.now_lt_nextTick ran
        by_cases passed : start + tickPeriod < last
        · obtain ⟨time, other, member, above, below⟩ := ih waits ran passed
          exact ⟨time, other, List.mem_append_left _ member, above, below⟩
        · -- the timer that this event cuts short ends within the window
          exact ⟨state.now, event, by simp, by omega, by omega⟩
  | @tick entries state before time due ih =>
      -- what this tick leaves is not ready at its time, and the timer has just started anew
      rw [nextTick_tick runs] at inside
      rw [pending_tick _ before.distinct] at waits
      obtain ⟨-, notReady⟩ := Option.filter_eq_some_iff.mp waits
      rw [Bool.not_eq_true', ← Bool.not_eq_true, isReady_iff] at notReady
      omega
  | wait before time onward early ih => exact ih waits runs inside

theorem Unfolds.event_in_past_window (unfolds : Unfolds entries state)
    (waits : state.pending.get? uri = some scan) (start : Nat)
    (ready : scan.lastChange + quietPeriod ≤ start) (past : start + tickPeriod ≤ state.now) :
    ∃ time event, .handled time event ∈ entries ∧ start < time ∧ time < start + tickPeriod := by
  obtain ⟨next, runs⟩ := unfolds.timer_runs waits
  have notEnded := unfolds.now_lt_nextTick runs
  exact unfolds.event_in_window waits runs ready (by omega)

/-- After a pause as long as the quiet period and the timer nothing is pending. -/
theorem Unfolds.pending_eq_nil (unfolds : Unfolds entries state)
    (pause : ∀ time event, .handled time event ∈ entries →
      time + quietPeriod + tickPeriod ≤ state.now) : state.pending = [] := by
  cases pending : state.pending with
  | nil => rfl
  | cons row rest =>
      have waits : state.pending.get? row.1 = some row.2 :=
        unfolds.distinct.get?_of_mem (by simp [pending])
      obtain ⟨i, queuedAt⟩ := unfolds.pending_queued waits
      have changed := pause _ _ (List.mem_of_getElem? queuedAt.queued)
      obtain ⟨time, event, member, late, -⟩ := unfolds.event_in_past_window waits
        (state.now - tickPeriod) (by omega) (by omega)
      have paused := pause time event member
      omega

/-- In every run a tick scans a changed document only with the text of its last event, a change at
least the quiet period ago; a change is scanned at most once, and never if another event of its
document comes within the quiet period; and after a long enough pause nothing is pending. -/
theorem respondAll_scans_changes_once (stimuli : List Stimulus) :
    (respondAll {} stimuli).1 = (log {} stimuli).flatMap Entry.effects ∧
    (∀ j time uri text, (log {} stimuli)[j]? = some (.rescanned time uri text) →
      ∃ i change, (log {} stimuli)[i]? = some (.handled change (.changed uri text)) ∧
        change + quietPeriod ≤ time ∧ ScanOf (log {} stimuli) i j ∧
        ∀ i', ScanOf (log {} stimuli) i' j → i' = i) ∧
    (∀ i j j', ScanOf (log {} stimuli) i j → ScanOf (log {} stimuli) i j' → j = j') ∧
    (∀ i k change moment uri text event,
      (log {} stimuli)[i]? = some (.handled change (.changed uri text)) →
      (log {} stimuli)[k]? = some (.handled moment event) → i < k → event.uri = uri →
      moment < change + quietPeriod → ∀ j, ¬ ScanOf (log {} stimuli) i j) ∧
    ((∀ time event, .handled time event ∈ log {} stimuli →
        time + quietPeriod + tickPeriod ≤ (respondAll {} stimuli).2.now) →
      (respondAll {} stimuli).2.pending = []) := by
  have unfolds := unfolds_log stimuli
  refine ⟨effects_respondAll {} stimuli, ?_, ?_, ?_, unfolds.pending_eq_nil⟩
  · intro j time uri text scanned
    obtain ⟨i, change, queuedAt, aged⟩ := unfolds.rescanned_queued scanned
    have scanOf : ScanOf (log {} stimuli) i j := by
      refine ⟨change, time, uri, text, queuedAt.before, queuedAt.queued, scanned, ?_⟩
      intro k above below moment event found
      exact queuedAt.silent k above below _ found
    refine ⟨i, change, queuedAt.queued, aged, scanOf, ?_⟩
    intro i' again
    exact Nat.le_antisymm (scanOf.change_unique again) (again.change_unique scanOf)
  · intro i j j' scanOf again
    exact Nat.le_antisymm (unfolds.scanOf_le again scanOf) (unfolds.scanOf_le scanOf again)
  · intro i k change moment uri text event changed next after own early
    exact unfolds.not_scanOf_superseded changed next after own early

/-- A burst of two changes is scanned once, with the later text. -/
example :
    let uri : Uri := { scheme := "file", path := "/a.fx" }
    log {} [.event (.changed uri ['x']), .elapse 100, .event (.changed uri ['y']), .elapse 600] =
      [.handled 0 (.changed uri ['x']), .handled 100 (.changed uri ['y']),
        .rescanned 600 uri ['y']] := by
  decide +kernel

/-! ## Scans that other documents hold up -/

/-- A scan that is pending past the quiet period and the timer is held up by events of other
documents: since it became ready, every window as long as the timer holds one. -/
theorem overdue_scan_held_up_by_others (stimuli : List Stimulus) (uri : Uri) (scan : PendingScan)
    (waits : (respondAll {} stimuli).2.pending.get? uri = some scan) :
    (∃ i, QueuedAt (log {} stimuli) uri scan i (log {} stimuli).length) ∧
    ∀ start, scan.lastChange + quietPeriod ≤ start →
      start + tickPeriod ≤ (respondAll {} stimuli).2.now →
      ∃ time event, .handled time event ∈ log {} stimuli ∧ event.uri ≠ uri ∧
        start < time ∧ time < start + tickPeriod := by
  have unfolds := unfolds_log stimuli
  obtain ⟨i, queuedAt⟩ := unfolds.pending_queued waits
  refine ⟨⟨i, queuedAt⟩, ?_⟩
  intro start ready past
  obtain ⟨time, event, member, above, below⟩ :=
    unfolds.event_in_past_window waits start ready past
  refine ⟨time, event, member, ?_, above, below⟩
  obtain ⟨k, found⟩ := List.mem_iff_getElem?.mp member
  have inside : k < (log {} stimuli).length := (List.getElem?_eq_some_iff.mp found).1
  -- the event is later than the change, so it stands after it in the log
  rcases Nat.lt_trichotomy k i with earlier | rfl | later
  · have ordered : time ≤ scan.lastChange :=
      rel_of_pairwise unfolds.times_ordered earlier found queuedAt.queued
    omega
  · cases found.symm.trans queuedAt.queued
    omega
  · exact queuedAt.silent k later inside _ found

def busyRounds (busy : Uri) (pause : Nat) : Nat → List Stimulus
  | 0 => []
  | rounds + 1 => .elapse pause :: .event (.changed busy []) :: busyRounds busy pause rounds

/-- One change of a document, then changes of another at short intervals. -/
def busyRun (quiet busy : Uri) (pause rounds : Nat) : List Stimulus :=
  .event (.changed quiet []) :: busyRounds busy pause rounds

theorem elapse_early {duration : Nat}
    (early : ∀ next, state.nextTick = some next → state.now + duration < next) :
    state.elapse duration = ([], { state with now := state.now + duration }) := by
  have noTick (fuel : Nat) : ticksUntil (state.now + duration) (fuel + 1) state = ([], state) := by
    rw [ticksUntil]
    cases runs : state.nextTick with
    | none => rfl
    | some next =>
        have bound := early next runs
        have notDue : ¬ next ≤ state.now + duration := by omega
        simp only [if_neg notDue]
  simp only [elapse, noTick]

theorem busyRounds_wait (quiet busy : Uri) (differs : quiet ≠ busy) (pause rounds : Nat)
    (short : pause < tickPeriod) (scan : PendingScan) (state : Rescan)
    (runs : state.nextTick = some (state.now + tickPeriod))
    (waits : state.pending.get? quiet = some scan) :
    (state.respondAll (busyRounds busy pause rounds)).2.now = state.now + rounds * pause ∧
      (state.respondAll (busyRounds busy pause rounds)).2.pending.get? quiet = some scan := by
  induction rounds generalizing state with
  | zero => simpa [busyRounds, respondAll] using waits
  | succ rounds ih =>
      have early : ∀ next, state.nextTick = some next → state.now + pause < next := by
        intro next found
        cases runs.symm.trans found
        omega
      simp only [busyRounds, respondAll, respond, elapse_early early]
      generalize later : { state with now := state.now + pause } = waited
      have waitsLater : (waited.handle (.changed busy [])).2.pending.get? quiet = some scan := by
        have other : quiet ≠ (Event.changed busy []).uri := differs
        rw [pending_handle, if_neg other, ← later]
        exact waits
      obtain ⟨now, pending⟩ := ih (waited.handle (.changed busy [])).2
        (nextTick_handle_of_pending waitsLater) waitsLater
      refine ⟨?_, pending⟩
      rw [now, now_handle, ← later, Nat.succ_mul]
      dsimp only
      omega

/-- Changes of one document that come faster than the timer hold up another for as long as they
last. -/
theorem busyRun_waits (quiet busy : Uri) (differs : quiet ≠ busy) (pause rounds : Nat)
    (short : pause < tickPeriod) :
    (respondAll {} (busyRun quiet busy pause rounds)).2.now = rounds * pause ∧
      (respondAll {} (busyRun quiet busy pause rounds)).2.pending.get? quiet = some ⟨0, []⟩ := by
  have waits : ((handle {} (.changed quiet [])).2).pending.get? quiet = some ⟨0, []⟩ := by
    have own : quiet = (Event.changed quiet []).uri := rfl
    rw [pending_handle, if_pos own]
    rfl
  have result := busyRounds_wait quiet busy differs pause rounds short _ _
    (nextTick_handle_of_pending waits) waits
  rw [now_handle, Nat.zero_add] at result
  exact result

def quietSource : Uri := { scheme := "file", path := "/a.fx" }

def busySource : Uri := { scheme := "file", path := "/b.fx" }

theorem quietSource_ne_busySource : quietSource ≠ busySource := by decide

/-- Other documents can keep a scan pending past the quiet period and one run of the timer. -/
theorem pending_age_not_bounded :
    ¬ ∀ (stimuli : List Stimulus) (uri : Uri) (scan : PendingScan),
      (respondAll {} stimuli).2.pending.get? uri = some scan →
      (respondAll {} stimuli).2.now < scan.lastChange + (quietPeriod + tickPeriod) := by
  intro bounded
  obtain ⟨now, waits⟩ :=
    busyRun_waits quietSource busySource quietSource_ne_busySource 40 15 (by decide)
  have young := bounded _ _ _ waits
  rw [now] at young
  exact absurd young (by decide)

theorem busyRun_held_up :
    (respondAll {} (busyRun quietSource busySource 40 15)).2.pending.get? quietSource =
        some ⟨0, []⟩ ∧
      ∃ time event, .handled time event ∈ log {} (busyRun quietSource busySource 40 15) ∧
        event.uri ≠ quietSource ∧ 500 < time ∧ time < 550 := by
  obtain ⟨now, waits⟩ :=
    busyRun_waits quietSource busySource quietSource_ne_busySource 40 15 (by decide)
  have heldUp := (overdue_scan_held_up_by_others _ _ _ waits).2
  exact ⟨waits, heldUp 500 (by decide) (by rw [now]; decide)⟩

end FluxonAssist.Rescan
