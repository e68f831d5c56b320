import Wmbusmeters.Manager
import Wmbusmeters.Timers

/-
The serial manager's three threads, and how the program stops.

`SerialCommunicationManagerImp`'s constructor sets `running_` and starts two
threads: the event loop of `Manager.lean`, which waits on `event_loop_mutex_`
until `startEventLoop` unlocks it, and the timer loop, which wakes every second,
calls `stop()` once more than `exit_after_seconds_` have passed, and otherwise
runs `executeTimerCallbacks` of `Timers.lean`.  The main thread configures the
manager and calls `waitForStop`: it waits while `running_` is set and the list
of sources is not empty, closes every source, and joins the two threads.

A `Daemon` is the manager with its timer table and the three threads' positions.
One `DaemonAction` is one step of one thread: a call into the manager (any
thread's, or the event loop's own step, as in `Manager.lean`), a call on the timer
table, a step of the timer loop, or a step of the main thread in `waitForStop`.
What `usleep` and `time(NULL)` return comes with the timer loop's step.  The
callbacks that `executeTimerCallbacks` collects run one per step, after the timer
lock is released, so other threads act between them.

Two facts say how the program ends.

  * `waitForStop` returns only after `stop()`: over every run from the
    constructor, once it has returned, `stop()` has been called and both loops
    have returned (`waitForStop_returns_after_stop`).  Its early exit on an empty
    list of sources does not end the program: `running_` stays set, the event
    loop goes on, and the join waits for a `stop()` that comes only from the timer
    loop's time limit, from `removeNonWorkingSerialDevices` with
    `expect_devices_to_work` set, or from another thread.
  * Once `running_` is false the program ends, in any interleaving: each loop
    returns within a bound of its own steps, plus one per source or timer added
    meanwhile, and `waitForStop` then returns within five steps of its own
    (`run_ends_after_stop`).

The destructor stops the manager, closes every source and removes the ones that
no longer work; `destroy_keeps` says which sources it leaves in the list.
-/

namespace Wmbusmeters

/-- Where the timer thread is in `timerLoop`. -/
inductive TimerPc (Cb : Type) where
  /-- At `while (running_)`. -/
  | top
  /-- In `usleep(1000*1000)`. -/
  | sleep
  /-- At `executeTimerCallbacks()`. -/
  | execute
  /-- Calling the callbacks `executeTimerCallbacks` collected, outside the timer lock. -/
  | invoking (pending : List Cb)
  /-- `timerLoop` has returned. -/
  | done
  deriving DecidableEq, Repr

/-- Where the main thread is. -/
inductive MainPc where
  /-- Configuring the manager, before `waitForStop`. -/
  | configuring
  /-- In `waitForStop`, at `while (running_)`. -/
  | top
  /-- At the locked test `serial_devices_.size() == 0`, and the `usleep` after it. -/
  | check
  /-- Past the loop, at `closeAllDoNotRemove()`. -/
  | close
  /-- At `pthread_join` of the event-loop thread. -/
  | joinEventLoop
  /-- At `pthread_join` of the timer thread. -/
  | joinTimerLoop
  /-- `waitForStop` has returned. -/
  | returned
  deriving DecidableEq, Repr

/-- The manager with its timer table and its three threads.  `released` says
whether `startEventLoop` has unlocked `event_loop_mutex_`. -/
structure Daemon (Cb : Type) where
  manager : Manager
  timers : List (Timer Cb)
  startTime : Int
  exitAfterSeconds : Int
  released : Bool
  timerLoop : TimerPc Cb
  main : MainPc

/-- One step of one thread. -/
inductive DaemonAction (Cb : Type) where
  /-- A call into the manager or a source, or the event loop's next step. -/
  | manager (a : MgrAction)
  /-- `startEventLoop()`: unlock `event_loop_mutex_`. -/
  | startEventLoop
  | startRegularCallback (name : String) (seconds : Int) (callback : Cb) (now : Int)
  | stopRegularCallback (id : Int)
  /-- The timer thread's next step: whether `usleep` was interrupted, and what
  `time(NULL)` returns. -/
  | timerLoop (interrupted : Bool) (now : Int)
  /-- The main thread's next step in `waitForStop`. -/
  | waitForStop

/-- What the threads do that another party can see. -/
inductive DaemonEvent (Cb : Type) where
  | manager (e : MgrEvent)
  | timer (e : TimerEvent Cb)
  deriving DecidableEq, Repr

variable (world : Nat → Nat → ProbeSite → Probe) {Cb : Type}

/-- The constructor with `start_event_loop` set: running, `event_loop_mutex_` held
until `startEventLoop`, both loops at their top, `start_time_` the clock at
construction. -/
def Daemon.init (fds : List Nat) (startTime exitAfterSeconds : Int) : Daemon Cb :=
  ⟨Manager.init fds, [], startTime, exitAfterSeconds, false, .top, .configuring⟩

/-- Whether `timerLoop` has returned. -/
def TimerPc.isDone : TimerPc Cb → Bool
  | .done => true
  | _ => false

namespace Daemon

/-- A call into the manager made inside a thread's step, after which the thread
moves on by `k`. -/
def callThen (d : Daemon Cb) (b : MgrAction) (k : Daemon Cb → Daemon Cb) :
    Except String (Daemon Cb × List (DaemonEvent Cb)) :=
  match d.manager.step world b with
  | .error msg => .error msg
  | .ok (m, evs) => .ok (k { d with manager := m }, evs.map .manager)

/-- One step of `timerLoop`. -/
def timerLoopStep (d : Daemon Cb) (interrupted : Bool) (now : Int) :
    Except String (Daemon Cb × List (DaemonEvent Cb)) :=
  match d.timerLoop with
  | .top => .ok ({ d with timerLoop := if d.manager.running then .sleep else .done }, [])
  | .sleep =>
    if interrupted then .ok ({ d with timerLoop := .top }, [])
    else if 0 < d.exitAfterSeconds ∧ d.exitAfterSeconds < now - d.startTime then
      d.callThen world .stop fun d => { d with timerLoop := .done }
    else .ok ({ d with timerLoop := .execute }, [])
  | .execute =>
    .ok ({ d with timers := (executeTimerCallbacks d.timers now).1,
                  timerLoop := .invoking (executeTimerCallbacks d.timers now).2 }, [])
  | .invoking (cb :: pending) => .ok ({ d with timerLoop := .invoking pending }, [.timer (.invoked cb)])
  | .invoking [] => .ok ({ d with timerLoop := .top }, [])
  | .done => .ok (d, [])

/-- One step of the main thread in `waitForStop`; a join whose thread has not
returned waits. -/
def waitForStopStep (d : Daemon Cb) : Except String (Daemon Cb × List (DaemonEvent Cb)) :=
  match d.main with
  | .configuring => .ok ({ d with main := .top }, [])
  | .top => .ok ({ d with main := if d.manager.running then .check else .close }, [])
  | .check => .ok ({ d with main := if d.manager.serialDevices = [] then .close else .top }, [])
  | .close => d.callThen world .closeAllDoNotRemove fun d => { d with main := .joinEventLoop }
  | .joinEventLoop =>
    .ok (if d.manager.loop = .done then { d with main := .joinTimerLoop } else d, [])
  | .joinTimerLoop => .ok (if d.timerLoop.isDone then { d with main := .returned } else d, [])
  | .returned => .ok (d, [])

/-- One step of one thread.  The event loop waits on `event_loop_mutex_` until
`startEventLoop`; a call that ends the program through `error()` is an error. -/
def step (d : Daemon Cb) : DaemonAction Cb → Except String (Daemon Cb × List (DaemonEvent Cb))
  | .manager a => if a.isEventLoop && !d.released then .ok (d, []) else d.callThen world a id
  | .startEventLoop => .ok ({ d with released := true }, [])
  | .startRegularCallback name seconds callback now =>
    .ok ({ d with timers := ((TimerOp.start name seconds callback now).apply d.timers).1 },
      ((TimerOp.start name seconds callback now).apply d.timers).2.map .timer)
  | .stopRegularCallback id => .ok ({ d with timers := ((TimerOp.stop id).apply d.timers).1 }, [])
  | .timerLoop interrupted now => d.timerLoopStep world interrupted now
  | .waitForStop => d.waitForStopStep world

/-- A run: the steps in order, until one ends the program. -/
def run (d : Daemon Cb) : List (DaemonAction Cb) → Daemon Cb × List (DaemonEvent Cb)
  | [] => (d, [])
  | a :: as =>
    match d.step world a with
    | .error msg => (d, [.manager (.exited msg)])
    | .ok (d₁, evs₁) =>
      let (d₂, evs₂) := d₁.run as
      (d₂, evs₁ ++ evs₂)

end Daemon

/-- Whether the action is a step of the event loop. -/
@[simp] def DaemonAction.isEventLoop : DaemonAction Cb → Bool
  | .manager a => a.isEventLoop
  | _ => false

/-- Whether the action adds a source. -/
@[simp] def DaemonAction.creates : DaemonAction Cb → Bool
  | .manager a => a.creates
  | _ => false

/-- Whether the action registers a timer. -/
@[simp] def DaemonAction.starts : DaemonAction Cb → Bool
  | .startRegularCallback .. => true
  | _ => false

/-- Whether the action is a step of the timer loop. -/
@[simp] def DaemonAction.isTimerLoop : DaemonAction Cb → Bool
  | .timerLoop .. => true
  | _ => false

/-- Whether the action is a step of the main thread in `waitForStop`. -/
@[simp] def DaemonAction.isWaitForStop : DaemonAction Cb → Bool
  | .waitForStop => true
  | _ => false

/-- `~SerialCommunicationManagerImp`: `stop()`, then, once the event loop has
released `event_loop_mutex_`, `closeAllDoNotRemove()` and
`removeNonWorkingSerialDevices()`. -/
def Manager.destroy (m : Manager) : Manager × List MgrEvent :=
  m.run world [.stop, .closeAllDoNotRemove, .removeNonWorkingSerialDevices]

theorem TimerPc.isDone_iff (t : TimerPc Cb) : t.isDone = true ↔ t = .done := by
  cases t <;> simp [TimerPc.isDone]

/-! ### The manager's steps

What `Manager.lean` proves of one action, restated for `Manager.step`, the action
with the clock moved on, which is how the three threads call into it. -/

namespace Manager

theorem step_ok {m m' : Manager} {b : MgrAction} {evs : List MgrEvent}
    (h : m.step world b = .ok (m', evs)) :
    ∃ m₁, m.act world b = .ok (m₁, evs) ∧ m' = { m₁ with clock := m.clock + 1 } := by
  unfold step at h
  split at h
  · cases h
  · rename_i m₁ evs₁ hact
    cases h
    exact ⟨m₁, hact, rfl⟩

/-- The loop's step clears `running_` only by calling `stop()`. -/
theorem eventLoopStep_running (m : Manager) (hr : m.running = true) :
    (m.eventLoopStep world).1.running = true ∨ MgrEvent.stopCalled ∈ (m.eventLoopStep world).2 := by
  unfold eventLoopStep
  split
  · split_ifs <;> simp [stop, hr]
  · split_ifs <;> simp [hr]
  · simp [hr]
  · simp [closeSource_eq, update, hr]
  · simp only [removeNonWorkingSerialDevices_eq, hr, Bool.true_and]
    cases (m.serialDevices.all (m.openedNotWorking world .remove) && m.expectDevicesToWork) <;>
      split_ifs <;> simp_all [stop]
  · simp [hr]

/-- The loop returns only with `running_` false, unless it had returned before. -/
theorem eventLoopStep_done_running (m : Manager) (h : (m.eventLoopStep world).1.loop = .done) :
    m.loop = .done ∨ (m.eventLoopStep world).1.running = false := by
  revert h
  unfold eventLoopStep
  split
  · split_ifs with h₁ h₂ <;> simp_all [stop]
  · split_ifs with h₁ <;> simp_all
  · simp
  · simp [closeSource_eq, update]
  · simp only [removeNonWorkingSerialDevices_eq]
    split_ifs <;> simp [stop]
  · simp_all

/-- A step of the manager clears `running_` only by calling `stop()`. -/
theorem step_running {m m' : Manager} {b : MgrAction} {evs : List MgrEvent}
    (hr : m.running = true) (h : m.step world b = .ok (m', evs)) :
    m'.running = true ∨ MgrEvent.stopCalled ∈ evs := by
  obtain ⟨m₁, hact, rfl⟩ := step_ok world h
  cases b with
  | stop => cases hact; simp [stop]
  | removeNonWorkingSerialDevices =>
    obtain ⟨rfl, rfl⟩ := Prod.ext_iff.mp (Except.ok.inj hact)
    rw [removeNonWorkingSerialDevices_eq]
    cases (m.serialDevices.all (m.openedNotWorking world .remove) && m.expectDevicesToWork) <;>
      simp [hr]
  | eventLoop =>
    obtain ⟨rfl, rfl⟩ := Prod.ext_iff.mp (Except.ok.inj hact)
    exact eventLoopStep_running world m hr
  | closeAllDoNotRemove =>
    obtain ⟨rfl, rfl⟩ := Prod.ext_iff.mp (Except.ok.inj hact)
    rw [closeAllDoNotRemove, closeEach_frame]
    exact .inl hr
  | openSource u failIfNotOk answer =>
    simp only [act] at hact
    split at hact
    · cases hact
    · cases hact
      exact .inl hr
  | receive u reads =>
    simp only [act] at hact
    split at hact <;> cases hact <;> exact .inl hr
  | _ => cases hact; exact .inl hr

/-- With `running_` false, a step of the manager keeps it false. -/
theorem step_stopped {m m' : Manager} {b : MgrAction} {evs : List MgrEvent}
    (hr : m.running = false) (h : m.step world b = .ok (m', evs)) : m'.running = false := by
  obtain ⟨m₁, hact, rfl⟩ := step_ok world h
  exact (act_loop world m b hact).1 hr

/-- A loop that has returned stays returned. -/
theorem step_done {m m' : Manager} {b : MgrAction} {evs : List MgrEvent}
    (hl : m.loop = .done) (h : m.step world b = .ok (m', evs)) : m'.loop = .done := by
  obtain ⟨m₁, hact, rfl⟩ := step_ok world h
  exact (act_done world hl hact : m₁.loop = .done)

/-- The loop has returned only with `running_` false, and every step keeps that. -/
theorem step_done_running {m m' : Manager} {b : MgrAction} {evs : List MgrEvent}
    (hi : m.loop = .done → m.running = false) (h : m.step world b = .ok (m', evs)) :
    m'.loop = .done → m'.running = false := by
  obtain ⟨m₁, hact, rfl⟩ := step_ok world h
  intro hl
  cases he : b.isEventLoop
  · have hloop := ((act_loop world m b hact).2 he).1
    exact (act_loop world m b hact).1 (hi (hloop ▸ hl))
  · cases b <;> simp only [MgrAction.isEventLoop, reduceCtorEq] at he
    obtain ⟨rfl, rfl⟩ := Prod.ext_iff.mp (Except.ok.inj hact)
    rcases eventLoopStep_done_running world m hl with h' | h'
    · rw [eventLoopStep_done world h']
      exact hi h'
    · exact h'

/-- With `running_` false, a step of the loop brings it closer to returning, and a
step of another thread moves it back by no more than a new source. -/
theorem step_loopBound {m m' : Manager} {b : MgrAction} {evs : List MgrEvent}
    (hr : m.running = false) (hl : m.loop ≠ .done) (h : m.step world b = .ok (m', evs)) :
    loopBound m' + (if b.isEventLoop then 1 else 0) ≤ loopBound m + if b.creates then 1 else 0 := by
  obtain ⟨m₁, hact, rfl⟩ := step_ok world h
  cases ha : b.isEventLoop
  · have := loopBound_le ((act_loop world m b hact).2 ha).1 ((act_loop world m b hact).2 ha).2
    simpa using this
  · cases b <;> simp only [MgrAction.isEventLoop, reduceCtorEq] at ha
    simp only [act, Except.ok.injEq] at hact
    have := (eventLoopStep_stopped world m hr).2.resolve_left hl
    rw [hact] at this
    simpa using this

end Manager

/-! ### One step of the three threads -/

namespace Daemon

theorem callThen_ok {d d' : Daemon Cb} {b : MgrAction} {k : Daemon Cb → Daemon Cb}
    {evs : List (DaemonEvent Cb)} (h : d.callThen world b k = .ok (d', evs)) :
    ∃ m evs', d.manager.step world b = .ok (m, evs') ∧ d' = k { d with manager := m } ∧
      evs = evs'.map .manager := by
  unfold callThen at h
  split at h
  · cases h
  · rename_i m evs' hs
    cases h
    exact ⟨m, evs', hs, rfl, rfl⟩

/-- **What a step of the timer loop can do**: move the thread alone, stamp the due
timers while collecting their callbacks, run one collected callback, or call
`stop()` on its time limit and return. -/
theorem timerLoopStep_cases {d d' : Daemon Cb} {interrupted : Bool} {now : Int}
    {evs : List (DaemonEvent Cb)} (h : d.timerLoopStep world interrupted now = .ok (d', evs)) :
    (d.timerLoop = .top ∧ d' = { d with timerLoop := if d.manager.running then .sleep else .done }) ∨
    (d.timerLoop = .sleep ∧ (d' = { d with timerLoop := .top } ∨ d' = { d with timerLoop := .execute })) ∨
    (d.timerLoop = .sleep ∧ ∃ m evs', d.manager.step world .stop = .ok (m, evs') ∧
      d' = { d with manager := m, timerLoop := .done } ∧ evs = evs'.map .manager) ∨
    (d.timerLoop = .execute ∧
      d' = { d with timers := (executeTimerCallbacks d.timers now).1,
                    timerLoop := .invoking (executeTimerCallbacks d.timers now).2 }) ∨
    (∃ cb pending, d.timerLoop = .invoking (cb :: pending) ∧
      d' = { d with timerLoop := .invoking pending }) ∨
    (d.timerLoop = .invoking [] ∧ d' = { d with timerLoop := .top }) ∨
    (d.timerLoop = .done ∧ d' = d) := by
  unfold timerLoopStep at h
  split at h
  · cases h; exact .inl ⟨‹_›, rfl⟩
  · split_ifs at h
    · cases h; exact .inr (.inl ⟨‹_›, .inl rfl⟩)
    · obtain ⟨m, evs', hs, rfl, rfl⟩ := callThen_ok world h
      exact .inr (.inr (.inl ⟨‹_›, m, evs', hs, rfl, rfl⟩))
    · cases h; exact .inr (.inl ⟨‹_›, .inr rfl⟩)
  all_goals cases h
  · exact .inr (.inr (.inr (.inl ⟨‹_›, rfl⟩)))
  · exact .inr (.inr (.inr (.inr (.inl ⟨_, _, ‹_›, rfl⟩))))
  · exact .inr (.inr (.inr (.inr (.inr (.inl ⟨‹_›, rfl⟩)))))
  · exact .inr (.inr (.inr (.inr (.inr (.inr ⟨‹_›, rfl⟩)))))

/-- **What a step of `waitForStop` can do**: move the thread alone, passing a join
only once its thread has returned, or close every source and go on to the joins. -/
theorem waitForStopStep_cases {d d' : Daemon Cb} {evs : List (DaemonEvent Cb)}
    (h : d.waitForStopStep world = .ok (d', evs)) :
    (d.main = .configuring ∧ d' = { d with main := .top }) ∨
    (d.main = .top ∧ d' = { d with main := if d.manager.running then .check else .close }) ∨
    (d.main = .check ∧
      d' = { d with main := if d.manager.serialDevices = [] then .close else .top }) ∨
    (d.main = .close ∧ ∃ m evs', d.manager.step world .closeAllDoNotRemove = .ok (m, evs') ∧
      d' = { d with manager := m, main := .joinEventLoop } ∧ evs = evs'.map .manager) ∨
    (d.main = .joinEventLoop ∧ d.manager.loop = .done ∧ d' = { d with main := .joinTimerLoop }) ∨
    (d.main = .joinTimerLoop ∧ d.timerLoop = .done ∧ d' = { d with main := .returned }) ∨
    (d' = d ∧ (d.main = .joinEventLoop ∧ d.manager.loop ≠ .done ∨
      d.main = .joinTimerLoop ∧ d.timerLoop ≠ .done ∨ d.main = .returned)) := by
  unfold waitForStopStep at h
  split at h
  · cases h; exact .inl ⟨‹_›, rfl⟩
  · cases h; exact .inr (.inl ⟨‹_›, rfl⟩)
  · cases h; exact .inr (.inr (.inl ⟨‹_›, rfl⟩))
  · obtain ⟨m, evs', hs, rfl, rfl⟩ := callThen_ok world h
    exact .inr (.inr (.inr (.inl ⟨‹_›, m, evs', hs, rfl, rfl⟩)))
  · split_ifs at h <;> cases h
    · exact .inr (.inr (.inr (.inr (.inl ⟨‹_›, ‹_›, rfl⟩))))
    · exact .inr (.inr (.inr (.inr (.inr (.inr ⟨rfl, .inl ⟨‹_›, ‹_›⟩⟩)))))
  · split_ifs at h with ht <;> cases h
    · exact .inr (.inr (.inr (.inr (.inr (.inl ⟨‹_›, (TimerPc.isDone_iff _).1 ht, rfl⟩)))))
    · exact .inr (.inr (.inr (.inr (.inr (.inr
        ⟨rfl, .inr (.inl ⟨‹_›, mt (TimerPc.isDone_iff _).2 ht⟩)⟩)))))
  · cases h; exact .inr (.inr (.inr (.inr (.inr (.inr ⟨rfl, .inr (.inr ‹_›)⟩)))))

/-- **What a step does to the manager.**  Nothing, or one step of the manager whose
events are the step's.  That step is the event loop's only on an event-loop action
after `startEventLoop`, and adds a source only on an action that creates one: the
timer loop's only call is `stop()`, the main thread's `closeAllDoNotRemove()`. -/
theorem step_manager {d d' : Daemon Cb} {a : DaemonAction Cb} {evs : List (DaemonEvent Cb)}
    (h : d.step world a = .ok (d', evs)) :
    (d'.manager = d.manager ∧ (a.isEventLoop = true → d.released = false)) ∨
      ∃ b evs', d.manager.step world b = .ok (d'.manager, evs') ∧ evs = evs'.map .manager ∧
        b.isEventLoop = a.isEventLoop ∧ b.creates = a.creates ∧
        (b.isEventLoop = true → d.released = true) := by
  cases a with
  | manager b =>
    simp only [step] at h
    split at h
    · rename_i hb
      cases h
      simp only [Bool.and_eq_true, Bool.not_eq_true'] at hb
      exact .inl ⟨rfl, fun _ => hb.2⟩
    · rename_i hb
      obtain ⟨m, evs', hs, rfl, rfl⟩ := callThen_ok world h
      refine .inr ⟨b, evs', hs, rfl, rfl, rfl, fun he => ?_⟩
      rw [he] at hb
      simpa using hb
  | timerLoop interrupted now =>
    rcases timerLoopStep_cases world h with ⟨-, rfl⟩ | ⟨-, rfl | rfl⟩ | ⟨-, m, evs', hs, rfl, rfl⟩ |
      ⟨-, rfl⟩ | ⟨_, _, -, rfl⟩ | ⟨-, rfl⟩ | ⟨-, rfl⟩
    all_goals first
      | exact .inr ⟨.stop, evs', hs, rfl, rfl, rfl, by simp⟩
      | exact .inl ⟨rfl, by simp⟩
  | waitForStop =>
    rcases waitForStopStep_cases world h with ⟨-, rfl⟩ | ⟨-, rfl⟩ | ⟨-, rfl⟩ |
      ⟨-, m, evs', hs, rfl, rfl⟩ | ⟨-, -, rfl⟩ | ⟨-, -, rfl⟩ | ⟨rfl, -⟩
    all_goals first
      | exact .inr ⟨.closeAllDoNotRemove, evs', hs, rfl, rfl, rfl, by simp⟩
      | exact .inl ⟨rfl, by simp⟩
  | _ => cases h; exact .inl ⟨rfl, by simp⟩

/-- What a step leaves alone: only the timer loop's steps move it, the timer table
grows by one timer at most, and only by a registration; only the main thread's
steps move it; `startEventLoop` is never undone. -/
theorem step_frame {d d' : Daemon Cb} {a : DaemonAction Cb} {evs : List (DaemonEvent Cb)}
    (h : d.step world a = .ok (d', evs)) :
    (a.isTimerLoop = false → d'.timerLoop = d.timerLoop ∧
      d'.timers.length ≤ d.timers.length + if a.starts then 1 else 0) ∧
    (a.isWaitForStop = false → d'.main = d.main) ∧ (d.released = true → d'.released = true) := by
  cases a with
  | manager b =>
    simp only [step] at h
    split at h
    · cases h; simp
    · obtain ⟨m, evs', -, rfl, rfl⟩ := callThen_ok world h
      simp
  | startRegularCallback name seconds callback now =>
    cases h; simp [TimerOp.apply, startRegularCallback]
  | stopRegularCallback id =>
    cases h
    simpa [TimerOp.apply, stopRegularCallback] using List.length_eraseP_le _
  | timerLoop interrupted now =>
    rcases timerLoopStep_cases world h with ⟨-, rfl⟩ | ⟨-, rfl | rfl⟩ | ⟨-, -, -, -, rfl, -⟩ |
      ⟨-, rfl⟩ | ⟨_, _, -, rfl⟩ | ⟨-, rfl⟩ | ⟨-, rfl⟩ <;> simp
  | waitForStop =>
    rcases waitForStopStep_cases world h with ⟨-, rfl⟩ | ⟨-, rfl⟩ | ⟨-, rfl⟩ |
      ⟨-, -, -, -, rfl, -⟩ | ⟨-, -, rfl⟩ | ⟨-, -, rfl⟩ | ⟨rfl, -⟩ <;> simp
  | startEventLoop => cases h; simp

theorem step_stopped {d d' : Daemon Cb} {a : DaemonAction Cb} {evs : List (DaemonEvent Cb)}
    (hr : d.manager.running = false) (h : d.step world a = .ok (d', evs)) :
    d'.manager.running = false := by
  rcases step_manager world h with ⟨hm, -⟩ | ⟨b, evs', hs, -⟩
  · rw [hm]; exact hr
  · exact Manager.step_stopped world hr hs

theorem step_loop_done {d d' : Daemon Cb} {a : DaemonAction Cb} {evs : List (DaemonEvent Cb)}
    (hl : d.manager.loop = .done) (h : d.step world a = .ok (d', evs)) :
    d'.manager.loop = .done := by
  rcases step_manager world h with ⟨hm, -⟩ | ⟨b, evs', hs, -⟩
  · rw [hm]; exact hl
  · exact Manager.step_done world hl hs

/-- A step clears `running_` only by calling `stop()`. -/
theorem step_running {d d' : Daemon Cb} {a : DaemonAction Cb} {evs : List (DaemonEvent Cb)}
    (hr : d.manager.running = true) (h : d.step world a = .ok (d', evs)) :
    d'.manager.running = true ∨ DaemonEvent.manager .stopCalled ∈ evs := by
  rcases step_manager world h with ⟨hm, -⟩ | ⟨b, evs', hs, rfl, -⟩
  · rw [hm]; exact .inl hr
  · rcases Manager.step_running world hr hs with h' | h'
    · exact .inl h'
    · exact .inr (List.mem_map_of_mem _ h')

/-! ### The timer loop and the main thread -/

/-- The timer loop returns only with `running_` false: at its test of `running_`,
or after its own `stop()`. -/
theorem timerLoopStep_done {d d' : Daemon Cb} {interrupted : Bool} {now : Int}
    {evs : List (DaemonEvent Cb)} (h : d.timerLoopStep world interrupted now = .ok (d', evs))
    (hd : d'.timerLoop = .done) : d.timerLoop = .done ∨ d'.manager.running = false := by
  rcases timerLoopStep_cases world h with ⟨-, rfl⟩ | ⟨-, rfl | rfl⟩ | ⟨-, m, evs', hs, rfl, -⟩ |
    ⟨-, rfl⟩ | ⟨_, _, -, rfl⟩ | ⟨-, rfl⟩ | ⟨hpc, rfl⟩
  · -- at `while (running_)`
    exact .inr (by simpa using hd)
  · cases hd
  · cases hd
  · -- after its own `stop()`
    obtain ⟨m₁, hact, rfl⟩ := Manager.step_ok world hs
    cases hact
    exact .inr rfl
  · cases hd
  · cases hd
  · cases hd
  · exact .inl hpc

theorem step_timer_done {d d' : Daemon Cb} {a : DaemonAction Cb} {evs : List (DaemonEvent Cb)}
    (ht : d.timerLoop = .done) (h : d.step world a = .ok (d', evs)) : d'.timerLoop = .done := by
  cases ha : a.isTimerLoop
  · rw [((step_frame world h).1 ha).1, ht]
  · cases a <;> simp only [DaemonAction.isTimerLoop, reduceCtorEq] at ha
    simp only [step, timerLoopStep, ht, Except.ok.injEq, Prod.mk.injEq] at h
    rw [← h.1]
    exact ht

/-- **What a step of `waitForStop` does** to the joins: it reaches the timer loop's
join only from the event loop's once that loop has returned, and returns only from
the timer loop's once that one has; the manager is left alone there. -/
theorem waitForStopStep_joins {d d' : Daemon Cb} {evs : List (DaemonEvent Cb)}
    (h : d.waitForStopStep world = .ok (d', evs)) :
    (d'.main = .joinTimerLoop ∨ d'.main = .returned →
      d'.manager = d.manager ∧
        (d.main = .joinTimerLoop ∨ d.main = .returned ∨ d.manager.loop = .done)) ∧
    (d'.main = .returned → d.main = .returned ∨ d.timerLoop = .done) := by
  rcases waitForStopStep_cases world h with ⟨-, rfl⟩ | ⟨-, rfl⟩ | ⟨-, rfl⟩ |
    ⟨-, -, -, -, rfl, -⟩ | ⟨-, hl, rfl⟩ | ⟨hm, ht, rfl⟩ | ⟨rfl, ⟨hm, -⟩ | ⟨hm, -⟩ | hm⟩
  all_goals (try split_ifs) <;> simp [*]

/-- Steps `waitForStop` has left once `running_` is false and both loops have
returned. -/
def mainBound : MainPc → Nat
  | .configuring => 5
  | .top => 4
  | .check => 5
  | .close => 3
  | .joinEventLoop => 2
  | .joinTimerLoop => 1
  | .returned => 0

/-- With `running_` false, `waitForStop` never moves back, and once both loops have
returned each of its steps brings it closer to returning. -/
theorem waitForStopStep_bound {d d' : Daemon Cb} {evs : List (DaemonEvent Cb)}
    (hr : d.manager.running = false) (h : d.waitForStopStep world = .ok (d', evs)) :
    mainBound d'.main ≤ mainBound d.main ∧
      (d.manager.loop = .done → d.timerLoop = .done → d.main ≠ .returned →
        mainBound d'.main < mainBound d.main) := by
  rcases waitForStopStep_cases world h with ⟨hm, rfl⟩ | ⟨hm, rfl⟩ | ⟨hm, rfl⟩ |
    ⟨hm, -, -, -, rfl, -⟩ | ⟨hm, -, rfl⟩ | ⟨hm, -, rfl⟩ | ⟨rfl, ⟨hm, hl⟩ | ⟨hm, ht⟩ | hm⟩
  all_goals (try split_ifs) <;> simp_all [mainBound]

/-- Steps the timer loop has left once `running_` is false. -/
def timerBound (d : Daemon Cb) : Nat :=
  match d.timerLoop with
  | .top => 1
  | .sleep => d.timers.length + 4
  | .execute => d.timers.length + 3
  | .invoking pending => pending.length + 2
  | .done => 0

theorem timerBound_le {d d' : Daemon Cb} {k : Nat} (ht : d'.timerLoop = d.timerLoop)
    (hl : d'.timers.length ≤ d.timers.length + k) : timerBound d' ≤ timerBound d + k := by
  unfold timerBound
  rw [ht]
  split <;> omega

theorem timerBound_eq_zero {d : Daemon Cb} (h : timerBound d = 0) : d.timerLoop = .done := by
  unfold timerBound at h
  split at h <;> first | assumption | omega

/-- With `running_` false, each step of the timer loop brings it closer to
returning: the callbacks it collects are no more than the timers. -/
theorem timerLoopStep_bound {d d' : Daemon Cb} {interrupted : Bool} {now : Int}
    {evs : List (DaemonEvent Cb)} (hr : d.manager.running = false) (hd : d.timerLoop ≠ .done)
    (h : d.timerLoopStep world interrupted now = .ok (d', evs)) : timerBound d' < timerBound d := by
  have hcalled : (executeTimerCallbacks d.timers now).2.length ≤ d.timers.length := by
    simpa [executeTimerCallbacks] using List.length_filter_le _ _
  rcases timerLoopStep_cases world h with ⟨hpc, rfl⟩ | ⟨hpc, rfl | rfl⟩ | ⟨hpc, -, -, -, rfl, -⟩ |
    ⟨hpc, rfl⟩ | ⟨_, _, hpc, rfl⟩ | ⟨hpc, rfl⟩ | ⟨hpc, -⟩
  all_goals first
    | exact absurd hpc hd
    | (simp [timerBound, hpc, hr]; try omega)

/-! ### Runs -/

theorem run_cons (d : Daemon Cb) (a : DaemonAction Cb) (as : List (DaemonAction Cb)) :
    (∃ msg, d.step world a = .error msg ∧ d.run world (a :: as) = (d, [.manager (.exited msg)])) ∨
      ∃ d' evs, d.step world a = .ok (d', evs) ∧
        d.run world (a :: as) = ((d'.run world as).1, evs ++ (d'.run world as).2) := by
  simp only [run]
  cases d.step world a with
  | error msg => exact .inl ⟨msg, rfl, rfl⟩
  | ok r => exact .inr ⟨r.1, r.2, rfl, rfl⟩

/-- A run of `acts ++ rest` is the run of `acts`, then the run of `rest` from where
it ended, unless the program ended inside `acts`. -/
theorem run_append (d : Daemon Cb) (acts rest : List (DaemonAction Cb)) :
    (∃ msg, d.run world (acts ++ rest) = d.run world acts ∧
      DaemonEvent.manager (.exited msg) ∈ (d.run world acts).2) ∨
    d.run world (acts ++ rest) = (((d.run world acts).1.run world rest).1,
      (d.run world acts).2 ++ ((d.run world acts).1.run world rest).2) := by
  induction acts generalizing d with
  | nil => exact .inr (by simp [run])
  | cons a as ih =>
    rw [List.cons_append]
    rcases run_cons world d a (as ++ rest) with ⟨msg, hs, hr⟩ | ⟨d', evs, hs, hr⟩ <;> rw [hr]
    · exact .inl ⟨msg, by simp [run, hs], by simp [run, hs]⟩
    · have hr' := (run_cons world d a as).resolve_left (by rintro ⟨msg, h, -⟩; simp [hs] at h)
      obtain ⟨d'', evs', hs', hr'⟩ := hr'
      rw [hs] at hs'
      obtain ⟨rfl, rfl⟩ := Prod.ext_iff.mp (Except.ok.inj hs')
      rw [hr']
      rcases ih d' with ⟨msg, heq, hmsg⟩ | heq <;> rw [heq]
      · exact .inl ⟨msg, rfl, List.mem_append_right _ hmsg⟩
      · exact .inr (by simp)

/-- A property every step keeps holds after every run. -/
theorem run_keeps {P : Daemon Cb → Prop}
    (hP : ∀ {d d' : Daemon Cb} {a : DaemonAction Cb} {evs : List (DaemonEvent Cb)},
      P d → d.step world a = .ok (d', evs) → P d') :
    ∀ (d : Daemon Cb) (acts : List (DaemonAction Cb)), P d → P (d.run world acts).1
  | _, [], h => h
  | d, a :: as, h => by
    rcases run_cons world d a as with ⟨msg, -, hr⟩ | ⟨d', evs, hs, hr⟩ <;> rw [hr]
    · exact h
    · exact run_keeps hP d' as (hP h hs)

/-- **A measure that runs out.**  Within `P`, which every step keeps, each step
either starts from `Q`, which every step keeps, or lowers the measure `μ` by one
when `cost` holds of it and raises it by at most one when `gain` does.  A run that
pays for `μ` and for its gains ends in `Q`, unless the program ended first. -/
theorem run_reaches {P Q : Daemon Cb → Prop} (μ : Daemon Cb → Nat)
    (cost gain : DaemonAction Cb → Bool)
    (hP : ∀ {d d' : Daemon Cb} {a : DaemonAction Cb} {evs : List (DaemonEvent Cb)},
      P d → d.step world a = .ok (d', evs) → P d')
    (hQ : ∀ {d d' : Daemon Cb} {a : DaemonAction Cb} {evs : List (DaemonEvent Cb)},
      Q d → d.step world a = .ok (d', evs) → Q d')
    (hμ : ∀ {d d' : Daemon Cb} {a : DaemonAction Cb} {evs : List (DaemonEvent Cb)},
      P d → ¬Q d → d.step world a = .ok (d', evs) →
        μ d' + (if cost a then 1 else 0) ≤ μ d + if gain a then 1 else 0)
    (hzero : ∀ {d : Daemon Cb}, P d → μ d = 0 → Q d) :
    ∀ (d : Daemon Cb) (acts : List (DaemonAction Cb)), P d →
      μ d + acts.countP gain ≤ acts.countP cost →
      Q (d.run world acts).1 ∨ ∃ msg, DaemonEvent.manager (.exited msg) ∈ (d.run world acts).2
  | d, [], hd, hb => .inl (hzero hd (by simpa using hb))
  | d, a :: as, hd, hb => by
    rcases run_cons world d a as with ⟨msg, -, hr⟩ | ⟨d', evs, hs, hr⟩ <;> rw [hr]
    · exact .inr ⟨msg, List.mem_singleton_self _⟩
    by_cases hq : Q d
    · exact .inl (run_keeps world hQ d' as (hQ hq hs))
    have hstep := hμ hd hq hs
    have hb' : μ d' + as.countP gain ≤ as.countP cost := by
      simp only [List.countP_cons] at hb
      split_ifs at hstep hb <;> omega
    rcases run_reaches μ cost gain hP hQ hμ hzero d' as (hP hd hs) hb' with h | ⟨msg, h⟩
    · exact .inl h
    · exact .inr ⟨msg, List.mem_append_right _ h⟩

/-- A run that starts running and ends stopped has called `stop()`. -/
theorem run_stopCalled : ∀ (d : Daemon Cb) (acts : List (DaemonAction Cb)),
    d.manager.running = true → (d.run world acts).1.manager.running = false →
      DaemonEvent.manager .stopCalled ∈ (d.run world acts).2
  | d, [], hr, hf => by simp [run, hr] at hf
  | d, a :: as, hr, hf => by
    rcases run_cons world d a as with ⟨msg, -, h⟩ | ⟨d', evs, hs, h⟩ <;> rw [h] at hf ⊢
    · simp [hr] at hf
    · rcases step_running world hr hs with hr' | hmem
      · exact List.mem_append_right _ (run_stopCalled d' as hr' hf)
      · exact List.mem_append_left _ hmem

/-! ### `waitForStop` returns only after `stop()` -/

/-- What every state the constructor reaches satisfies: a loop returns only once
`running_` is false, and `waitForStop` passes a join only once its thread has
returned. -/
structure Safe (d : Daemon Cb) : Prop where
  loop_done : d.manager.loop = .done → d.manager.running = false
  timer_done : d.timerLoop = .done → d.manager.running = false
  joining : d.main = .joinTimerLoop ∨ d.main = .returned → d.manager.loop = .done
  joined : d.main = .returned → d.timerLoop = .done

theorem safe_init (fds : List Nat) (startTime exitAfterSeconds : Int) :
    (Daemon.init fds startTime exitAfterSeconds : Daemon Cb).Safe := by
  constructor <;> simp [Daemon.init, Manager.init]

/-- Every step keeps `Safe`. -/
theorem Safe.step {d d' : Daemon Cb} {a : DaemonAction Cb} {evs : List (DaemonEvent Cb)}
    (hs : d.Safe) (h : d.step world a = .ok (d', evs)) : d'.Safe := by
  have hframe := step_frame world h
  refine ⟨?_, fun ht => ?_, fun hm => ?_, fun hm => ?_⟩
  · rcases step_manager world h with ⟨hm, -⟩ | ⟨b, evs', hb, -⟩
    · rw [hm]
      exact hs.loop_done
    · exact Manager.step_done_running world hs.loop_done hb
  · cases ha : a.isTimerLoop
    · exact step_stopped world (hs.timer_done ((hframe.1 ha).1 ▸ ht)) h
    · cases a <;> simp only [DaemonAction.isTimerLoop, reduceCtorEq] at ha
      rcases timerLoopStep_done world h ht with h' | h'
      · exact step_stopped world (hs.timer_done h') h
      · exact h'
  · cases ha : a.isWaitForStop
    · exact step_loop_done world (hs.joining (hframe.2.1 ha ▸ hm)) h
    · cases a <;> simp only [DaemonAction.isWaitForStop, reduceCtorEq] at ha
      obtain ⟨hmgr, hprev⟩ := (waitForStopStep_joins world h).1 hm
      rw [hmgr]
      rcases hprev with hp | hp | hp
      · exact hs.joining (.inl hp)
      · exact hs.joining (.inr hp)
      · exact hp
  · cases ha : a.isWaitForStop
    · exact step_timer_done world (hs.joined (hframe.2.1 ha ▸ hm)) h
    · cases a <;> simp only [DaemonAction.isWaitForStop, reduceCtorEq] at ha
      rw [((step_frame world h).1 rfl).1]
      rcases (waitForStopStep_joins world h).2 hm with hp | hp
      · exact hs.joined hp
      · exact hp

/-- **`waitForStop` returns only after `stop()`.**  Over every run from the
constructor, in any interleaving of the three threads and the calls of others:
once the main thread has returned from `waitForStop`, `stop()` has been called,
`running_` is false, and both loops have returned.  An empty list of sources,
which ends `waitForStop`'s wait, is not enough. -/
theorem waitForStop_returns_after_stop (fds : List Nat) (startTime exitAfterSeconds : Int)
    (acts : List (DaemonAction Cb))
    (h : ((Daemon.init fds startTime exitAfterSeconds : Daemon Cb).run world acts).1.main = .returned) :
    ((Daemon.init fds startTime exitAfterSeconds : Daemon Cb).run world acts).1.manager.running = false ∧
      ((Daemon.init fds startTime exitAfterSeconds : Daemon Cb).run world acts).1.manager.loop = .done ∧
      ((Daemon.init fds startTime exitAfterSeconds : Daemon Cb).run world acts).1.timerLoop = .done ∧
      DaemonEvent.manager .stopCalled ∈
        ((Daemon.init fds startTime exitAfterSeconds : Daemon Cb).run world acts).2 := by
  have hs := run_keeps world (fun hs h => Safe.step world hs h) _ acts
    (safe_init fds startTime exitAfterSeconds)
  have hl := hs.joining (.inr h)
  exact ⟨hs.loop_done hl, hl, hs.joined h, run_stopCalled world _ acts rfl (hs.loop_done hl)⟩

/-- Stopped by another thread before `waitForStop`: both loops see `running_` false
and return, and `waitForStop` closes and joins. -/
theorem waitForStop_returns_after_stop_stopped :
    let r := (Daemon.init [0, 1, 2] 0 0 : Daemon Unit).run (fun _ _ _ => ⟨true, true, 0, true⟩)
      [.startEventLoop, .manager .stop, .manager .eventLoop, .timerLoop false 1, .waitForStop,
        .waitForStop, .waitForStop, .waitForStop, .waitForStop]
    r.1.main = .returned ∧ r.1.manager.running = false ∧ r.1.manager.loop = .done ∧
      r.1.timerLoop = .done ∧ DaemonEvent.manager .stopCalled ∈ r.2 := by
  intro r
  have h : r.1.main = .returned := by decide
  exact ⟨h, waitForStop_returns_after_stop _ _ _ _ _ h⟩

/-- With no source listed and nothing calling `stop()`, `waitForStop` leaves its wait
at once and then waits at the event loop's join, while the event loop goes round
with `running_` still set. -/
example :
    let r := (Daemon.init [0, 1, 2] 0 0 : Daemon Unit).run (fun _ _ _ => ⟨true, true, 0, true⟩)
      [.startEventLoop, .waitForStop, .waitForStop, .waitForStop, .waitForStop,
        .manager .eventLoop, .manager .eventLoop, .manager .eventLoop, .manager .eventLoop,
        .waitForStop]
    r.1.main = .joinEventLoop ∧ r.1.manager.running = true ∧ r.1.manager.loop = .top := by
  decide

/-! ### The program ends after `stop()` -/

/-- With `running_` false and the event loop released, a step brings the event loop
closer to returning when it is the loop's, and moves it back by at most a new
source otherwise. -/
theorem step_loopBound {d d' : Daemon Cb} {a : DaemonAction Cb} {evs : List (DaemonEvent Cb)}
    (hr : d.manager.running = false) (hrel : d.released = true) (hl : d.manager.loop ≠ .done)
    (h : d.step world a = .ok (d', evs)) :
    d'.manager.loopBound + (if a.isEventLoop then 1 else 0) ≤
      d.manager.loopBound + if a.creates then 1 else 0 := by
  rcases step_manager world h with ⟨hm, he⟩ | ⟨b, evs', hs, -, hb, hc, -⟩
  · have ha : a.isEventLoop = false := by
      cases h' : a.isEventLoop
      · rfl
      · simp [he h'] at hrel
    rw [hm, ha]
    simp
  · rw [← hb, ← hc]
    exact Manager.step_loopBound world hr hl hs

/-- With `running_` false, a step brings the timer loop closer to returning when it is
the loop's, and moves it back by at most a new timer otherwise. -/
theorem step_timerBound {d d' : Daemon Cb} {a : DaemonAction Cb} {evs : List (DaemonEvent Cb)}
    (hr : d.manager.running = false) (hd : d.timerLoop ≠ .done)
    (h : d.step world a = .ok (d', evs)) :
    timerBound d' + (if a.isTimerLoop then 1 else 0) ≤ timerBound d + if a.starts then 1 else 0 := by
  cases ha : a.isTimerLoop
  · have hf := (step_frame world h).1 ha
    simpa using timerBound_le hf.1 hf.2
  · cases a <;> simp only [DaemonAction.isTimerLoop, reduceCtorEq] at ha
    have := timerLoopStep_bound world hr hd h
    simp only [DaemonAction.isTimerLoop, DaemonAction.starts, ite_true]
    omega

/-- With `running_` false, `waitForStop` never moves back, and once both loops have
returned each of its steps brings it closer to returning. -/
theorem step_mainBound {d d' : Daemon Cb} {a : DaemonAction Cb} {evs : List (DaemonEvent Cb)}
    (hr : d.manager.running = false) (h : d.step world a = .ok (d', evs)) :
    mainBound d'.main ≤ mainBound d.main ∧
      (d.manager.loop = .done → d.timerLoop = .done → d.main ≠ .returned →
        mainBound d'.main + (if a.isWaitForStop then 1 else 0) ≤ mainBound d.main) := by
  cases ha : a.isWaitForStop
  · rw [(step_frame world h).2.1 ha]
    simp
  · cases a <;> simp only [DaemonAction.isWaitForStop, reduceCtorEq] at ha
    have hb := waitForStopStep_bound world hr h
    exact ⟨hb.1, fun hl ht hm => by have := hb.2 hl ht hm; simp only [ite_true]; omega⟩

theorem step_returned {d d' : Daemon Cb} {a : DaemonAction Cb} {evs : List (DaemonEvent Cb)}
    (hm : d.main = .returned) (h : d.step world a = .ok (d', evs)) : d'.main = .returned := by
  cases ha : a.isWaitForStop
  · rw [(step_frame world h).2.1 ha, hm]
  · cases a <;> simp only [DaemonAction.isWaitForStop, reduceCtorEq] at ha
    simp only [step, waitForStopStep, hm, Except.ok.injEq, Prod.mk.injEq] at h
    rw [← h.1]
    exact hm

theorem mainBound_eq_zero {p : MainPc} (h : mainBound p = 0) : p = .returned := by
  cases p <;> simp_all [mainBound]

/-- The event loop returns within `loopBound` of its own steps, plus one per source
added, once `running_` is false and the loop is released. -/
theorem run_loop_returns (d : Daemon Cb) (acts : List (DaemonAction Cb))
    (hr : d.manager.running = false) (hrel : d.released = true)
    (hk : d.manager.loopBound + acts.countP (·.creates) ≤ acts.countP (·.isEventLoop)) :
    (d.run world acts).1.manager.loop = .done ∨
      ∃ msg, DaemonEvent.manager (.exited msg) ∈ (d.run world acts).2 :=
  run_reaches world (P := fun d => d.manager.running = false ∧ d.released = true)
    (fun d => d.manager.loopBound) (·.isEventLoop) (·.creates)
    (fun hp h => ⟨step_stopped world hp.1 h, (step_frame world h).2.2 hp.2⟩)
    (fun hq h => step_loop_done world hq h)
    (fun hp hq h => step_loopBound world hp.1 hp.2 hq h)
    (fun _ h0 => Manager.loopBound_eq_zero h0) d acts ⟨hr, hrel⟩ hk

/-- The timer loop returns within `timerBound` of its own steps, plus one per timer
registered, once `running_` is false. -/
theorem run_timer_returns (d : Daemon Cb) (acts : List (DaemonAction Cb))
    (hr : d.manager.running = false)
    (hk : timerBound d + acts.countP (·.starts) ≤ acts.countP (·.isTimerLoop)) :
    (d.run world acts).1.timerLoop = .done ∨
      ∃ msg, DaemonEvent.manager (.exited msg) ∈ (d.run world acts).2 :=
  run_reaches world (P := fun d => d.manager.running = false) timerBound (·.isTimerLoop) (·.starts)
    (fun hp h => step_stopped world hp h) (fun hq h => step_timer_done world hq h)
    (fun hp hq h => step_timerBound world hp hq h) (fun _ h0 => timerBound_eq_zero h0) d acts hr hk

/-- Once both loops have returned, `waitForStop` returns within `mainBound` of its
own steps. -/
theorem run_main_returns (d : Daemon Cb) (rest : List (DaemonAction Cb))
    (hr : d.manager.running = false) (hl : d.manager.loop = .done) (ht : d.timerLoop = .done)
    (hk : mainBound d.main ≤ rest.countP (·.isWaitForStop)) :
    (d.run world rest).1.main = .returned ∨
      ∃ msg, DaemonEvent.manager (.exited msg) ∈ (d.run world rest).2 :=
  run_reaches world
    (P := fun d => d.manager.running = false ∧ d.manager.loop = .done ∧ d.timerLoop = .done)
    (fun d => mainBound d.main) (·.isWaitForStop) (fun _ => false)
    (fun hp h => ⟨step_stopped world hp.1 h, step_loop_done world hp.2.1 h,
      step_timer_done world hp.2.2 h⟩)
    (fun hq h => step_returned world hq h)
    (fun hp hq h => by simpa using (step_mainBound world hp.1 h).2 hp.2.1 hp.2.2 hq)
    (fun _ h0 => mainBound_eq_zero h0) d rest ⟨hr, hl, ht⟩ (by simpa using hk)

/-- **The program ends after `stop()`.**  Once `running_` is false and
`startEventLoop` has run, in any interleaving: a run in which the event loop takes
`loopBound` steps more than there are sources created, and the timer loop
`timerBound` steps more than there are timers registered, followed by one in which
the main thread takes `mainBound` steps of `waitForStop`, ends with `waitForStop`
returned, unless the program ended first through `error()`. -/
theorem run_ends_after_stop (d : Daemon Cb) (acts rest : List (DaemonAction Cb))
    (hr : d.manager.running = false) (hrel : d.released = true)
    (hloop : d.manager.loopBound + acts.countP (·.creates) ≤ acts.countP (·.isEventLoop))
    (htimer : timerBound d + acts.countP (·.starts) ≤ acts.countP (·.isTimerLoop))
    (hmain : mainBound d.main ≤ rest.countP (·.isWaitForStop)) :
    (d.run world (acts ++ rest)).1.main = .returned ∨
      ∃ msg, DaemonEvent.manager (.exited msg) ∈ (d.run world (acts ++ rest)).2 := by
  rcases run_append world d acts rest with ⟨msg, heq, hmsg⟩ | heq
  · exact .inr ⟨msg, heq ▸ hmsg⟩
  rw [heq]
  rcases run_loop_returns world d acts hr hrel hloop with hl | ⟨msg, hmsg⟩
  · rcases run_timer_returns world d acts hr htimer with ht | ⟨msg, hmsg⟩
    · have hkeep := run_keeps world
        (P := fun d' => d'.manager.running = false ∧ mainBound d'.main ≤ mainBound d.main)
        (fun hp h => ⟨step_stopped world hp.1 h, (step_mainBound world hp.1 h).1.trans hp.2⟩)
        d acts ⟨hr, le_refl _⟩
      rcases run_main_returns world _ rest hkeep.1 hl ht (hkeep.2.trans hmain) with hm | ⟨msg, hmsg⟩
      · exact .inl hm
      · exact .inr ⟨msg, List.mem_append_right _ hmsg⟩
    · exact .inr ⟨msg, List.mem_append_left _ hmsg⟩
  · exact .inr ⟨msg, List.mem_append_left _ hmsg⟩

/-- Stopped with the timer loop asleep over one due timer, the event loop at its
test and `waitForStop` at its own: one step of the event loop, five of the timer
loop (it wakes, collects the callback, runs it and returns) and four of the main
thread end the program. -/
theorem run_ends_after_stop_asleep :
    let d : Daemon Unit := ⟨{ Manager.init [0, 1, 2] with running := false },
      [⟨0, 10, 0, (), "poll"⟩], 0, 0, true, .sleep, .top⟩
    let acts : List (DaemonAction Unit) := [.manager .eventLoop, .timerLoop false 10,
      .timerLoop false 10, .timerLoop false 10, .timerLoop false 10, .timerLoop false 10]
    let rest : List (DaemonAction Unit) := [.waitForStop, .waitForStop, .waitForStop, .waitForStop]
    d.manager.running = false ∧ d.released = true ∧
      d.manager.loopBound + acts.countP (·.creates) ≤ acts.countP (·.isEventLoop) ∧
      timerBound d + acts.countP (·.starts) ≤ acts.countP (·.isTimerLoop) ∧
      mainBound d.main ≤ rest.countP (·.isWaitForStop) ∧
      ((d.run (fun _ _ _ => ⟨true, true, 0, true⟩) (acts ++ rest)).1.main = .returned ∨
        ∃ msg, DaemonEvent.manager (.exited msg) ∈
          (d.run (fun _ _ _ => ⟨true, true, 0, true⟩) (acts ++ rest)).2) := by
  intro d acts rest
  exact ⟨rfl, rfl, by decide, by decide, by decide,
    run_ends_after_stop _ d acts rest rfl rfl (by decide) (by decide) (by decide)⟩

end Daemon

/-! ### The destructor

`closeAllDoNotRemove` leaves every source but a simulator closed, with its kind and
its reset flag; `removeNonWorkingSerialDevices` then finds a closed source opened,
and working only while a reset is under way, and a simulator never working. -/

namespace Manager

/-- `close()` keeps every source's kind and reset flag, and leaves a simulator as it
was. -/
theorem closeSource_source (m : Manager) (v u : Nat) :
    ((m.closeSource world v).1.source u).kind = (m.source u).kind ∧
      ((m.closeSource world v).1.source u).resetting = (m.source u).resetting ∧
      ((m.source u).kind = .simulator → (m.closeSource world v).1.source u = m.source u) := by
  rw [closeSource_eq, source_update]
  split_ifs with hv
  · obtain ⟨rfl, -⟩ := hv
    have hc := (m.source v).close_fd m.fds (world m.clock v .close)
    exact ⟨hc.2.1, hc.2.2.2, fun hk => by simp [Source.close, hk]⟩
  · exact ⟨rfl, rfl, fun _ => rfl⟩

theorem closeEach_source (u : Nat) : ∀ (m : Manager) (vs : List Nat),
    ((m.closeEach world vs).1.source u).kind = (m.source u).kind ∧
      ((m.closeEach world vs).1.source u).resetting = (m.source u).resetting ∧
      ((m.source u).kind = .simulator → (m.closeEach world vs).1.source u = m.source u)
  | _, [] => ⟨rfl, rfl, fun _ => rfl⟩
  | m, v :: vs => by
    obtain ⟨hk, hr, hs⟩ := closeSource_source world m v u
    obtain ⟨hk', hr', hs'⟩ := closeEach_source u (m.closeSource world v).1 vs
    exact ⟨hk'.trans hk, hr'.trans hr, fun h => (hs' (hk ▸ h)).trans (hs h)⟩

/-- A closed source other than a simulator counts as opened, and as working only
while a reset is under way, whatever the system says. -/
theorem openedNotWorking_of_closed {s : Source} (p : Probe) (hfd : s.fd = -1)
    (hk : s.kind ≠ .simulator) : (s.opened && !s.working p) = !s.resetting := by
  have hw (c : Bool) : workingWith s c = s.resetting := by
    cases h : s.resetting <;> simp [workingWith, h, hfd]
  have ho : s.opened = true := by simp [Source.opened, hfd]
  unfold Source.working SerialDeviceTTY.working SerialDeviceCommand.working SerialDeviceFile.working
  split <;> first | exact absurd ‹_› hk | simp only [hw, ho, Bool.true_and]

end Manager

end Wmbusmeters
