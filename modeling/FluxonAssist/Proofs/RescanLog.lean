import FluxonAssist.Proofs.ScanCache

/-!
# The log of the delayed scans

Events and passing time drive the delayed scans. The log lists what happened and when: the events
handled, and the scans that the ticks made. It accounts for everything that is done to the kept
functions, `effects_respondAll`.

Time that passes is a number of ticks and then a wait in which the timer does not end, and the
bounded loop of ticks never stops early, `ticksUntil_passes`. So a log and its last state unfold
from the start by three kinds of steps, `Unfolds`, and what holds of every run is proved step by
step.
-/
set_option autoImplicit false
namespace FluxonAssist.Rescan

/-- What comes to the delayed scans from outside. -/
inductive Stimulus where
  | event (event : Event)
  | elapse (duration : Nat)
  deriving DecidableEq, Repr

/-- What is done upon a stimulus, and the state after it. -/
def respond (state : Rescan) : Stimulus → List Effect × Rescan
  | .event event => state.handle event
  | .elapse duration => state.elapse duration

def respondAll : Rescan → List Stimulus → List Effect × Rescan
  | state, [] => ([], state)
  | state, stimulus :: rest =>
    let (effects, state) := state.respond stimulus
    let (later, state) := respondAll state rest
    (effects ++ later, state)

def Event.uri : Event → Uri
  | .opened uri _ => uri
  | .changed uri _ => uri
  | .closed uri => uri

/-- What is done at once upon an event. -/
def Event.effects : Event → List Effect
  | .opened uri text => [.scan uri text]
  | .changed _ _ => []
  | .closed uri => [.forget uri]

/-- The scan that an event leaves pending for its document. -/
def Event.queued (time : Nat) : Event → Option PendingScan
  | .changed _ text => some ⟨time, text⟩
  | _ => none

inductive Entry where
  | handled (time : Nat) (event : Event)
  | rescanned (time : Nat) (uri : Uri) (text : List Char)
  deriving DecidableEq, Repr

def Entry.time : Entry → Nat
  | .handled time _ => time
  | .rescanned time _ _ => time

def Entry.uri : Entry → Uri
  | .handled _ event => event.uri
  | .rescanned _ uri _ => uri

def Entry.effects : Entry → List Effect
  | .handled _ event => event.effects
  | .rescanned _ uri text => [.scan uri text]

/-- The pending scans that are ready at a time. -/
def readyRows (state : Rescan) (time : Nat) : Table Uri PendingScan :=
  state.pending.filter fun row => isReady time row.2

def tickEntries (state : Rescan) (time : Nat) : List Entry :=
  (state.readyRows time).map fun row => .rescanned time row.1 row.2.text

def ticksLog (time : Nat) : Nat → Rescan → List Entry
  | 0, _ => []
  | fuel + 1, state =>
    match state.nextTick with
    | none => []
    | some next =>
      if next ≤ time then state.tickEntries next ++ ticksLog time fuel (state.tick next).2 else []

def log : Rescan → List Stimulus → List Entry
  | _, [] => []
  | state, .event event :: rest => .handled state.now event :: log (state.handle event).2 rest
  | state, .elapse duration :: rest =>
    ticksLog (state.now + duration) (duration / tickPeriod + 1) state ++
      log (state.elapse duration).2 rest

/-! ## Effects -/

theorem effects_handle (state : Rescan) (event : Event) :
    (state.handle event).1 = event.effects := by
  cases event <;> rfl

theorem effects_tick (state : Rescan) (time : Nat) :
    (state.tick time).1 = (state.tickEntries time).flatMap Entry.effects := by
  simp only [tick, tickEntries, readyRows, List.flatMap_map, Entry.effects]
  induction state.pending.filter fun row => isReady time row.2 with
  | nil => rfl
  | cons row rest ih => rw [List.map_cons, ih]; rfl

theorem effects_ticksUntil (time fuel : Nat) (state : Rescan) :
    (ticksUntil time fuel state).1 = (ticksLog time fuel state).flatMap Entry.effects := by
  induction fuel generalizing state with
  | zero => rfl
  | succ fuel ih =>
      rw [ticksUntil, ticksLog]
      cases state.nextTick with
      | none => rfl
      | some next =>
          by_cases due : next ≤ time
          · simp only [if_pos due, List.flatMap_append, ih, effects_tick]
          · simp only [if_neg due, List.flatMap_nil]

/-- The log accounts for all effects of a run, in order. -/
theorem effects_respondAll (state : Rescan) (stimuli : List Stimulus) :
    (state.respondAll stimuli).1 = (log state stimuli).flatMap Entry.effects := by
  induction stimuli generalizing state with
  | nil => rfl
  | cons stimulus rest ih =>
      cases stimulus with
      | event event =>
          simp only [respondAll, respond, log, List.flatMap_cons, ih, effects_handle]
          rfl
      | elapse duration =>
          simp only [respondAll, respond, log, List.flatMap_append, ih, elapse, effects_ticksUntil]

/-! ## Steps -/

/-- A log and the state it leads to from the start. -/
inductive Unfolds : List Entry → Rescan → Prop
  | start : Unfolds [] {}
  | handle {entries : List Entry} {state : Rescan} (before : Unfolds entries state)
      (event : Event) :
      Unfolds (entries ++ [.handled state.now event]) (state.handle event).2
  | tick {entries : List Entry} {state : Rescan} (before : Unfolds entries state) (next : Nat)
      (due : state.nextTick = some next) :
      Unfolds (entries ++ state.tickEntries next) (state.tick next).2
  | wait {entries : List Entry} {state : Rescan} (before : Unfolds entries state) (time : Nat)
      (onward : state.now ≤ time) (early : ∀ next, state.nextTick = some next → time < next) :
      Unfolds entries { state with now := time }

theorem nextTick_restartTimer {state : Rescan} {next : Nat}
    (runs : state.restartTimer.nextTick = some next) : next = state.now + tickPeriod := by
  simp only [restartTimer] at runs
  split at runs
  · cases runs
  · exact (Option.some.inj runs).symm

theorem handle_restarts (state : Rescan) (event : Event) :
    ∃ pending, (state.handle event).2 = restartTimer { state with pending } := by
  cases event <;> exact ⟨_, rfl⟩

theorem now_handle (state : Rescan) (event : Event) : (state.handle event).2.now = state.now := by
  cases event <;> rfl

theorem nextTick_handle {state : Rescan} {event : Event} {next : Nat}
    (runs : (state.handle event).2.nextTick = some next) : next = state.now + tickPeriod := by
  obtain ⟨pending, restarted⟩ := handle_restarts state event
  rw [restarted] at runs
  have ends := nextTick_restartTimer runs
  exact ends

theorem now_tick (state : Rescan) (time : Nat) : (state.tick time).2.now = time := rfl

theorem nextTick_tick {state : Rescan} {time next : Nat}
    (runs : (state.tick time).2.nextTick = some next) : next = time + tickPeriod :=
  nextTick_restartTimer runs

theorem tickPeriod_pos : 0 < tickPeriod := by decide

/-- The running timer has not ended. -/
theorem Unfolds.now_lt_nextTick {entries : List Entry} {state : Rescan}
    (unfolds : Unfolds entries state) {next : Nat} (runs : state.nextTick = some next) :
    state.now < next := by
  have positive := tickPeriod_pos
  cases unfolds with
  | start => cases runs
  | handle before event =>
      rw [nextTick_handle runs, now_handle]
      omega
  | tick before time due =>
      rw [nextTick_tick runs, now_tick]
      omega
  | wait before time onward early => exact early next runs

/-- With a step for every tick period the ticks do not stop before their time. -/
theorem ticksUntil_passes (time fuel : Nat) (state : Rescan)
    (enough : ∀ next, state.nextTick = some next → time < next + fuel * tickPeriod) :
    ∀ next, (ticksUntil time fuel state).2.nextTick = some next → time < next := by
  induction fuel generalizing state with
  | zero =>
      intro next runs
      have bound := enough next runs
      omega
  | succ fuel ih =>
      intro next
      rw [ticksUntil]
      cases runs : state.nextTick with
      | none =>
          intro impossible
          cases runs.symm.trans impossible
      | some first =>
          by_cases due : first ≤ time
          · simp only [if_pos due]
            refine ih (state.tick first).2 ?_ next
            intro second runsNext
            have bound := enough first runs
            rw [nextTick_tick runsNext]
            rw [Nat.succ_mul] at bound
            omega
          · simp only [if_neg due]
            intro same
            cases runs.symm.trans same
            omega

theorem now_ticksUntil_le (time fuel : Nat) (state : Rescan) (started : state.now ≤ time) :
    (ticksUntil time fuel state).2.now ≤ time := by
  induction fuel generalizing state with
  | zero => exact started
  | succ fuel ih =>
      rw [ticksUntil]
      cases state.nextTick with
      | none => exact started
      | some next =>
          by_cases due : next ≤ time
          · simp only [if_pos due]
            exact ih (state.tick next).2 due
          · simp only [if_neg due]
            exact started

theorem Unfolds.ticksUntil {entries : List Entry} {state : Rescan} (unfolds : Unfolds entries state)
    (time fuel : Nat) :
    Unfolds (entries ++ ticksLog time fuel state) (Rescan.ticksUntil time fuel state).2 := by
  induction fuel generalizing entries state with
  | zero => simpa [ticksLog, Rescan.ticksUntil] using unfolds
  | succ fuel ih =>
      rw [Rescan.ticksUntil, ticksLog]
      cases runs : state.nextTick with
      | none => simpa using unfolds
      | some next =>
          by_cases due : next ≤ time
          · simp only [if_pos due]
            rw [← List.append_assoc]
            exact ih (unfolds.tick next runs)
          · simpa only [if_neg due, List.append_nil] using unfolds

theorem Unfolds.elapse {entries : List Entry} {state : Rescan} (unfolds : Unfolds entries state)
    (duration : Nat) :
    Unfolds (entries ++ ticksLog (state.now + duration) (duration / tickPeriod + 1) state)
      (state.elapse duration).2 := by
  have enough : ∀ next, state.nextTick = some next →
      state.now + duration < next + (duration / tickPeriod + 1) * tickPeriod := by
    intro next runs
    have notEnded := unfolds.now_lt_nextTick runs
    have cover := Nat.lt_mul_div_succ duration tickPeriod_pos
    rw [Nat.mul_comm] at cover
    omega
  refine (unfolds.ticksUntil _ _).wait (state.now + duration) ?_ ?_
  · exact now_ticksUntil_le _ _ state (Nat.le_add_right _ _)
  · exact ticksUntil_passes _ _ state enough

theorem Unfolds.respondAll {entries : List Entry} {state : Rescan} (unfolds : Unfolds entries state)
    (stimuli : List Stimulus) :
    Unfolds (entries ++ log state stimuli) (state.respondAll stimuli).2 := by
  induction stimuli generalizing entries state with
  | nil => simpa [log, Rescan.respondAll] using unfolds
  | cons stimulus rest ih =>
      cases stimulus with
      | event event =>
          have unfolded := ih (unfolds.handle event)
          rw [List.append_assoc] at unfolded
          exact unfolded
      | elapse duration =>
          have unfolded := ih (unfolds.elapse duration)
          rw [List.append_assoc] at unfolded
          exact unfolded

theorem unfolds_log (stimuli : List Stimulus) :
    Unfolds (log {} stimuli) (respondAll {} stimuli).2 := by
  simpa using Unfolds.start.respondAll stimuli

end FluxonAssist.Rescan
