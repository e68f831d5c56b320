import Wmbusmeters.Receive

/-
`SerialCommunicationManagerImp`: the list of byte sources, the event loop that
watches them, and the calls other threads make on them.

The manager is a state machine.  One `MgrAction` is one step of one party: the
event-loop thread advancing to its next lock-protected block, another thread
calling into the manager or into a source (`open`, `close`, `receive`, a reset,
`stop`, `closeAllDoNotRemove`, `removeNonWorking`), or a new source being
created.  Each block that holds the device lock is one step; between two of them
any other step may come.  A call on a source is one step as well, although
`close()` holds no lock: the runs of the model are those in which no two calls on
one source overlap.  `ConcurrentClose.lean` models `close()` statement by
statement, proves that one step is what a call run alone does, and runs two
overlapping `close()`s.

The system's answers come from a `world`: at its `t`-th step the manager asks
`world t u site` about source `u`, each place that calls `working()` or
`stillRunning` having its own site.  Nothing ties two answers together, so a
device node may vanish or reappear, and a child may exit, between any two calls.

The event loop is `eventLoopStep` over the thread's position `LoopPc`:

  * at `top` it checks `running_`, then scans the list; with
    `expect_devices_to_work` set, one source that is opened and not working makes
    it call `stop()` and leave;
  * at `select` it checks `running_` again (the data callbacks that `select`
    wakes are `receive` steps of their own);
  * at `sweep` it collects the sources that are opened, not working and not
    closed, then closes them one step at a time;
  * after the last close it runs `removeNonWorkingSerialDevices`, which asks
    `working()` again, and calls `stop()` when it found any with
    `expect_devices_to_work` set.

`eventLoop_stops_when` says exactly when the loop calls `stop()`.  The runs at the
end exercise what the manager does not guarantee: a stop while another source
works, a source removed from the list without being closed, and an
`onDisappear` hook that never runs or runs for a source never opened.
What it does guarantee: `closeAllDoNotRemove` closes every listed source and keeps
the list, a closed source leaves the list at the next removal, and the hook runs at
most once per registration over every run of the model; two `close()`s of one
source side by side can run it twice.  Once `running_` is false it stays false, and
the loop returns within a bounded number of its own steps, whatever the other
threads do.
-/

namespace Wmbusmeters

/-- The places where the manager asks the system about a source.  Within one step
each source is asked at most once at each place. -/
inductive ProbeSite where
  /-- The scan before `select`: `opened() && !working()`. -/
  | allWorking
  /-- The sweep's `opened() && !working() && !isClosed()`. -/
  | sweep
  /-- `removeNonWorkingSerialDevices` and `removeNonWorking`. -/
  | remove
  /-- `close()` (the command's `stillRunning`) and the `close()` ending a `receive`. -/
  | close
  deriving DecidableEq, Repr

/-- Where the event-loop thread is. -/
inductive LoopPc where
  /-- At `while (running_)`. -/
  | top
  /-- Past the scan, at `select` and the `if (!running_) break;` after it. -/
  | select
  /-- Past the data callbacks, about to collect the non-working sources. -/
  | sweep
  /-- Closing the non-working sources still `pending`; `found` says whether any were. -/
  | closing (pending : List Nat) (found : Bool)
  /-- The loop has returned. -/
  | done
  deriving DecidableEq, Repr

/-- The manager's state.  `sources` holds every source created, in creation order;
`serialDevices` is `serial_devices_`, as positions in `sources`; `fds` is the
process's descriptor table; `clock` counts the steps taken. -/
structure Manager where
  sources : List Source
  serialDevices : List Nat
  fds : List Nat
  running : Bool
  expectDevicesToWork : Bool
  loop : LoopPc
  clock : Nat
  deriving Repr

/-- What the manager does that another party can see. -/
inductive MgrEvent where
  /-- A call of `stop()`. -/
  | stopCalled
  /-- The source's `onDisappear` hook ran. -/
  | disappeared (u : Nat)
  /-- The source left `serial_devices_`. -/
  | removed (u : Nat)
  /-- A `receive()` on the source returned these bytes. -/
  | received (u : Nat) (data : List UInt8)
  /-- `error()` ended the program with this message. -/
  | exited (msg : String)
  deriving DecidableEq, Repr

/-- The constructor: running, no source, `expect_devices_to_work` not set. -/
def Manager.init (fds : List Nat) : Manager := ⟨[], [], fds, true, false, .top, 0⟩

variable (world : Nat → Nat → ProbeSite → Probe)

namespace Manager

/-- The source at position `u`. -/
def source (m : Manager) (u : Nat) : Source := m.sources.getD u ⟨.simulator, "", 0, -2, 0, false, false, false, false⟩

/-- The manager with the source at `u` replaced, and the descriptor table `fds`. -/
def update (m : Manager) (u : Nat) (s : Source) (fds : List Nat) : Manager :=
  { m with sources := m.sources.set u s, fds := fds }

/-- `addSerialDeviceForManagement`. -/
def add (m : Manager) (s : Source) : Manager :=
  { m with sources := m.sources ++ [s], serialDevices := m.serialDevices ++ [m.sources.length] }

/-- `opened() && !working()` of source `u`, asked at `site`. -/
def openedNotWorking (m : Manager) (site : ProbeSite) (u : Nat) : Bool :=
  (m.source u).opened && !(m.source u).working (world m.clock u site)

/-- `stop()`. -/
def stop (m : Manager) : Manager × List MgrEvent := ({ m with running := false }, [.stopCalled])

/-- `close()` on source `u`, with the hook's run as an event. -/
def closeSource (m : Manager) (u : Nat) : Manager × List MgrEvent :=
  let (s, fds, hook) := (m.source u).close m.fds (world m.clock u .close)
  (m.update u s fds, if hook then [.disappeared u] else [])

theorem source_update (m : Manager) (u v : Nat) (s : Source) (fds : List Nat) :
    (m.update u s fds).source v = if u = v ∧ u < m.sources.length then s else m.source v := by
  simp only [source, update, List.getD_eq_getElem?_getD, List.getElem?_set]
  by_cases huv : u = v
  · subst huv
    by_cases hu : u < m.sources.length
    · simp [hu]
    · simp [hu, List.getElem?_eq_none (Nat.le_of_not_lt hu)]
  · simp [huv]

theorem source_add (m : Manager) (s : Source) (v : Nat) :
    (m.add s).source v = if v = m.sources.length then s else m.source v := by
  simp only [source, add, List.getD_eq_getElem?_getD]
  rcases Nat.lt_trichotomy v m.sources.length with hv | rfl | hv
  · simp [List.getElem?_append_left hv, Nat.ne_of_lt hv]
  · simp [List.getElem?_concat_length]
  · rw [List.getElem?_eq_none (by simp; omega), List.getElem?_eq_none (by omega)]
    simp [Nat.ne_of_gt hv]

/-- A position past the sources reads as the simulator placeholder. -/
theorem source_of_le {m : Manager} {v : Nat} (hv : m.sources.length ≤ v) :
    m.source v = ⟨.simulator, "", 0, -2, 0, false, false, false, false⟩ := by
  simp [source, List.getElem?_eq_none hv]

/-- What `closeSource` does, spelled out. -/
theorem closeSource_eq (m : Manager) (u : Nat) :
    m.closeSource world u =
      (m.update u ((m.source u).close m.fds (world m.clock u .close)).1
          ((m.source u).close m.fds (world m.clock u .close)).2.1,
        if ((m.source u).close m.fds (world m.clock u .close)).2.2 then [.disappeared u] else []) :=
  rfl

/-- `removeNonWorkingSerialDevices`: erase every source that is opened and not
working, and call `stop()` when that empties the list while devices are expected
to work. -/
def removeNonWorkingSerialDevices (m : Manager) : Manager × List MgrEvent :=
  let kept := m.serialDevices.filter fun u => !m.openedNotWorking world .remove u
  let gone := (m.serialDevices.filter (m.openedNotWorking world .remove)).map .removed
  if kept = [] ∧ m.expectDevicesToWork then
    let (m', evs) := stop { m with serialDevices := kept }
    (m', gone ++ evs)
  else ({ m with serialDevices := kept }, gone)

/-- What `removeNonWorkingSerialDevices` does, spelled out: `stop()` is called when
the sources kept are none while devices are expected to work. -/
theorem removeNonWorkingSerialDevices_eq (m : Manager) :
    m.removeNonWorkingSerialDevices world =
      ({ m with
          serialDevices := m.serialDevices.filter fun u => !m.openedNotWorking world .remove u
          running := m.running &&
            !((m.serialDevices.all (m.openedNotWorking world .remove)) && m.expectDevicesToWork) },
        (m.serialDevices.filter (m.openedNotWorking world .remove)).map .removed ++
          if (m.serialDevices.all (m.openedNotWorking world .remove)) && m.expectDevicesToWork then
            [.stopCalled] else []) := by
  unfold removeNonWorkingSerialDevices stop
  by_cases h : (m.serialDevices.all (m.openedNotWorking world .remove)) && m.expectDevicesToWork
  · have h' : (m.serialDevices.filter fun u => !m.openedNotWorking world .remove u) = [] ∧
        m.expectDevicesToWork = true := by
      simp only [Bool.and_eq_true, List.all_eq_true] at h
      exact ⟨List.filter_eq_nil_iff.mpr fun u hu => by simp [h.1 u hu], h.2⟩
    rw [if_pos h', if_pos h, h]
    simp
  · have h' : ¬((m.serialDevices.filter fun u => !m.openedNotWorking world .remove u) = [] ∧
        m.expectDevicesToWork = true) := by
      rintro ⟨hk, he⟩
      refine h ?_
      simp only [Bool.and_eq_true, List.all_eq_true, he, and_true]
      intro u hu
      simpa using List.filter_eq_nil_iff.mp hk u hu
    rw [if_neg h', if_neg h]
    simp only [Bool.not_eq_true] at h
    simp [h]

/-- `removeNonWorking(device)`: erase the sources with that name that are opened and
not working, and say whether there were any. -/
def removeNonWorking (m : Manager) (device : String) : Manager × List MgrEvent × Bool :=
  let hit := fun u => m.openedNotWorking world .remove u && (m.source u).device == device
  let gone := m.serialDevices.filter hit
  ({ m with serialDevices := m.serialDevices.filter fun u => !hit u }, gone.map .removed,
    !gone.isEmpty)

/-- `close()` on each source of a list, in order. -/
def closeEach (m : Manager) : List Nat → Manager × List MgrEvent
  | [] => (m, [])
  | u :: us =>
    let (m₁, evs₁) := m.closeSource world u
    let (m₂, evs₂) := m₁.closeEach us
    (m₂, evs₁ ++ evs₂)

/-- `closeAllDoNotRemove`. -/
def closeAllDoNotRemove (m : Manager) : Manager × List MgrEvent := m.closeEach world m.serialDevices

/-- One step of the event-loop thread. -/
def eventLoopStep (m : Manager) : Manager × List MgrEvent :=
  match m.loop with
  | .top =>
    if !m.running then ({ m with loop := .done }, [])
    else if !(m.serialDevices.all fun u => !m.openedNotWorking world .allWorking u) &&
        m.expectDevicesToWork then
      let (m', evs) := m.stop
      ({ m' with loop := .done }, evs)
    else ({ m with loop := .select }, [])
  | .select => if !m.running then ({ m with loop := .done }, []) else ({ m with loop := .sweep }, [])
  | .sweep =>
    let nonWorking := m.serialDevices.filter fun u =>
      m.openedNotWorking world .sweep u && !(m.source u).isClosed
    ({ m with loop := .closing nonWorking !nonWorking.isEmpty }, [])
  | .closing (u :: us) found =>
    let (m', evs) := m.closeSource world u
    ({ m' with loop := .closing us found }, evs)
  | .closing [] found =>
    let (m', evs) := m.removeNonWorkingSerialDevices world
    if found && m'.expectDevicesToWork then
      let (m'', evs') := m'.stop
      ({ m'' with loop := .done }, evs ++ evs')
    else ({ m' with loop := .top }, evs)
  | .done => (m, [])

end Manager

/-- One step of one party. -/
inductive MgrAction where
  | createSerialDeviceTTY (device : String) (baudRate : Int)
  | createSerialDeviceCommand (identifier : String)
  | createSerialDeviceFile (file : String)
  | createSerialDeviceSimulator
  /-- `open(fail_if_not_ok)` on a source, with the system's answers. -/
  | openSource (u : Nat) (failIfNotOk : Bool) (answer : OpenAnswer)
  | close (u : Nat)
  /-- A `receive()` on a source, with the answers its reads get. -/
  | receive (u : Nat) (reads : List ReadResult)
  | onDisappear (u : Nat)
  | resetInitiated (u : Nat)
  | resetCompleted (u : Nat)
  | expectDevicesToWork
  | stop
  | closeAllDoNotRemove
  | removeNonWorking (device : String)
  /-- The destructor's `removeNonWorkingSerialDevices`. -/
  | removeNonWorkingSerialDevices
  /-- The event-loop thread's next step. -/
  | eventLoop

/-- Whether the action registers the hook of `u`. -/
@[simp] def MgrAction.registers (u : Nat) : MgrAction → Bool
  | .onDisappear v => v == u
  | _ => false

/-- Whether the action adds a source. -/
@[simp] def MgrAction.creates : MgrAction → Bool
  | .createSerialDeviceTTY .. | .createSerialDeviceCommand _ | .createSerialDeviceFile _
  | .createSerialDeviceSimulator => true
  | _ => false

/-- Whether the action is a step of the event-loop thread. -/
@[simp] def MgrAction.isEventLoop : MgrAction → Bool
  | .eventLoop => true
  | _ => false

namespace Manager

/-- What one action does.  A `receive` whose reads do not end its loop has not
returned, and changes nothing. -/
def act (m : Manager) : MgrAction → Except String (Manager × List MgrEvent)
  | .createSerialDeviceTTY device baudRate =>
    .ok (m.add ⟨.tty, device, baudRate, -2, 0, false, false, false, false⟩, [])
  | .createSerialDeviceCommand identifier =>
    .ok (m.add ⟨.command, identifier, 0, -2, 0, false, false, false, false⟩, [])
  | .createSerialDeviceFile file => .ok (m.add ⟨.file, file, 0, -2, 0, false, false, false, false⟩, [])
  | .createSerialDeviceSimulator => .ok (m.add ⟨.simulator, "", 0, -2, 0, false, false, false, false⟩, [])
  | .openSource u failIfNotOk answer =>
    match (m.source u).open failIfNotOk answer m.fds with
    | .error msg => .error msg
    | .ok (s, fds, _) => .ok (m.update u s fds, [])
  | .close u => .ok (m.closeSource world u)
  | .receive u reads =>
    match SerialDeviceImp.receive (m.source u) m.fds (world m.clock u .close) reads with
    | none => .ok (m, [])
    | some out =>
      .ok (m.update u out.source out.fds,
        (if out.hookRan then [.disappeared u] else []) ++ [.received u out.data])
  | .onDisappear u => .ok (m.update u (m.source u).setOnDisappear m.fds, [])
  | .resetInitiated u => .ok (m.update u (m.source u).resetInitiated m.fds, [])
  | .resetCompleted u => .ok (m.update u (m.source u).resetCompleted m.fds, [])
  | .expectDevicesToWork => .ok ({ m with expectDevicesToWork := true }, [])
  | .stop => .ok m.stop
  | .closeAllDoNotRemove => .ok (m.closeAllDoNotRemove world)
  | .removeNonWorking device =>
    let (m', evs, _) := m.removeNonWorking world device
    .ok (m', evs)
  | .removeNonWorkingSerialDevices => .ok (m.removeNonWorkingSerialDevices world)
  | .eventLoop => .ok (m.eventLoopStep world)

/-- One step: the action, then the clock moves on. -/
def step (m : Manager) (a : MgrAction) : Except String (Manager × List MgrEvent) :=
  match m.act world a with
  | .error msg => .error msg
  | .ok (m', evs) => .ok ({ m' with clock := m.clock + 1 }, evs)

/-- A run: the actions in order, until one ends the program. -/
def run (m : Manager) : List MgrAction → Manager × List MgrEvent
  | [] => (m, [])
  | a :: as =>
    match m.step world a with
    | .error msg => (m, [.exited msg])
    | .ok (m₁, evs₁) =>
      let (m₂, evs₂) := m₁.run as
      (m₂, evs₁ ++ evs₂)

/-- One action of a run: it ends the program, or the run goes on from its result. -/
theorem run_cons (m : Manager) (a : MgrAction) (as : List MgrAction) :
    (∃ msg, m.act world a = .error msg ∧ m.run world (a :: as) = (m, [.exited msg])) ∨
      ∃ m' evs, m.act world a = .ok (m', evs) ∧
        m.run world (a :: as) = (({ m' with clock := m.clock + 1 }.run world as).1,
          evs ++ ({ m' with clock := m.clock + 1 }.run world as).2) := by
  simp only [run, step]
  cases m.act world a with
  | error msg => exact .inl ⟨msg, rfl, rfl⟩
  | ok r => exact .inr ⟨r.1, r.2, rfl, rfl⟩

/-! ### When the event loop calls `stop()` -/

/-- **When the event loop calls `stop()`.**  With `expect_devices_to_work` set, and
only then, in three places: the scan before `select`, when some listed source is
opened and not working; `removeNonWorkingSerialDevices`, when every listed source
is; and the check after it, when the sweep found a source to close.  After each
the manager no longer runs, and the loop has returned or is back at its test of
`running_`. -/
theorem eventLoop_stops_when (m : Manager) :
    (MgrEvent.stopCalled ∈ (m.eventLoopStep world).2 ↔
      m.expectDevicesToWork = true ∧
        ((m.loop = .top ∧ m.running = true ∧
            ∃ u ∈ m.serialDevices, m.openedNotWorking world .allWorking u = true) ∨
          ∃ found, m.loop = .closing [] found ∧
            (found = true ∨ ∀ u ∈ m.serialDevices, m.openedNotWorking world .remove u = true))) ∧
    (MgrEvent.stopCalled ∈ (m.eventLoopStep world).2 →
      (m.eventLoopStep world).1.running = false ∧
        ((m.eventLoopStep world).1.loop = .done ∨ (m.eventLoopStep world).1.loop = .top)) := by
  cases hl : m.loop with
  | top =>
    by_cases hx : ∃ u ∈ m.serialDevices, m.openedNotWorking world .allWorking u = true <;>
      cases hr : m.running <;> by_cases he : m.expectDevicesToWork <;>
      simp [eventLoopStep, hl, hr, he, hx, stop]
  | select => cases hr : m.running <;> simp [eventLoopStep, hl, hr]
  | sweep => simp [eventLoopStep, hl]
  | closing pending found =>
    cases pending with
    | cons u us =>
      simp only [eventLoopStep, hl, closeSource_eq]
      split <;> simp
    | nil =>
      simp only [eventLoopStep, hl, removeNonWorkingSerialDevices_eq, ← List.all_eq_true]
      cases m.expectDevicesToWork <;> cases found <;>
        cases m.serialDevices.all (m.openedNotWorking world .remove) <;> simp [stop]
  | done => simp [eventLoopStep, hl]

/-- **A stop beside a working source.**  Two TTYs are open and devices are expected
to work; at the scan before `select` the first one's device is there and the
second one's is gone.  The loop calls `stop()` with the first one still listed,
opened and working. -/
theorem eventLoop_stops_beside_working_tty :
    let world : Nat → Nat → ProbeSite → Probe := fun _ u _ => ⟨u == 0, true, 0, true⟩
    let setup := (Manager.init [0, 1, 2]).run world
      [.createSerialDeviceTTY "/dev/ttyUSB0" 9600, .createSerialDeviceTTY "/dev/ttyUSB1" 9600,
        .openSource 0 false ⟨true, ⟨true, true, true, true, true, true⟩, false, false, 0⟩,
        .openSource 1 false ⟨true, ⟨true, true, true, true, true, true⟩, false, false, 0⟩,
        .expectDevicesToWork]
    setup.2 = [] ∧ setup.1.serialDevices = [0, 1] ∧ (setup.1.source 0).opened = true ∧
      (setup.1.source 0).working (world setup.1.clock 0 .allWorking) = true ∧
      (setup.1.eventLoopStep world).2 = [.stopCalled] := by
  decide

/-! ### Removal without close -/

/-- **A source leaves the list with its descriptor open.**  An opened TTY's device
is there when the sweep looks and gone when `removeNonWorkingSerialDevices` looks:
it is removed without being closed, and descriptor 3 stays open.  The same
happens through `removeNonWorking(device)`, which does not close either. -/
theorem removeNonWorking_keeps_descriptor :
    let world : Nat → Nat → ProbeSite → Probe := fun _ _ site => ⟨site != .remove, true, 0, true⟩
    let opened : List MgrAction := [.createSerialDeviceTTY "/dev/ttyUSB0" 9600,
      .openSource 0 false ⟨true, ⟨true, true, true, true, true, true⟩, false, false, 0⟩]
    let sweep := (Manager.init [0, 1, 2]).run world
      (opened ++ [.eventLoop, .eventLoop, .eventLoop, .eventLoop])
    let direct := (Manager.init [0, 1, 2]).run world (opened ++ [.removeNonWorking "/dev/ttyUSB0"])
    sweep.2 = [.removed 0] ∧ sweep.1.serialDevices = [] ∧ (sweep.1.source 0).isClosed = false ∧
      3 ∈ sweep.1.fds ∧
      direct.2 = [.removed 0] ∧ direct.1.serialDevices = [] ∧
      (direct.1.source 0).isClosed = false ∧ 3 ∈ direct.1.fds := by
  decide

/-! ### What closing guarantees

`closeAllDoNotRemove` closes every listed source and keeps the list; a closed
source, opened and not working, leaves the list at the next
`removeNonWorkingSerialDevices`.  Together: a source goes from the list with its
descriptor when it is closed first, which the sweep above does not do. -/

/-- Source `u` holds no descriptor: it is closed, or a simulator, which has none. -/
def Released (m : Manager) (u : Nat) : Prop :=
  (m.source u).fd = -1 ∨ (m.source u).kind = .simulator

/-- `close()` on `v` releases `v` and keeps every other source released. -/
theorem closeSource_released (m : Manager) (v u : Nat) (h : v = u ∨ m.Released u) :
    (m.closeSource world v).1.Released u := by
  have hclose := (m.source v).close_fd m.fds (world m.clock v .close)
  unfold Released
  rw [closeSource_eq, source_update]
  split_ifs with hv
  · obtain ⟨rfl, -⟩ := hv
    rw [hclose.2.1]
    exact hclose.1
  · rcases h with rfl | h
    · exact .inr (by rw [source_of_le (by omega)])
    · exact h

theorem closeEach_released (u : Nat) : ∀ (m : Manager) (vs : List Nat),
    u ∈ vs ∨ m.Released u → (m.closeEach world vs).1.Released u
  | _, [], h => h.resolve_left (List.not_mem_nil u)
  | m, v :: vs, h => by
    refine closeEach_released u (m.closeSource world v).1 vs ?_
    rcases h with h | h
    · rcases List.mem_cons.mp h with rfl | h
      · exact .inr (closeSource_released world m u u (.inl rfl))
      · exact .inl h
    · exact .inr (closeSource_released world m v u (.inr h))

theorem closeEach_serialDevices : ∀ (m : Manager) (vs : List Nat),
    (m.closeEach world vs).1.serialDevices = m.serialDevices
  | _, [] => rfl
  | m, v :: vs => closeEach_serialDevices (m.closeSource world v).1 vs

/-- **`closeAllDoNotRemove` closes every listed source and removes none.** -/
theorem closeAllDoNotRemove_releases (m : Manager) :
    (m.closeAllDoNotRemove world).1.serialDevices = m.serialDevices ∧
      ∀ u ∈ m.serialDevices, (m.closeAllDoNotRemove world).1.Released u :=
  ⟨closeEach_serialDevices world m _, fun u hu => closeEach_released world u m _ (.inl hu)⟩

/-- **A closed source leaves the list** at the next `removeNonWorkingSerialDevices`:
it counts as opened, and it does not work, whatever the system says. -/
theorem removeNonWorkingSerialDevices_drops_closed (m : Manager) {u : Nat}
    (h : (m.source u).isClosed = true) :
    u ∉ (m.removeNonWorkingSerialDevices world).1.serialDevices := by
  have hfd : (m.source u).fd = -1 := by
    simp only [Source.isClosed, Bool.and_eq_true, beq_iff_eq] at h
    exact h.1
  have hon : m.openedNotWorking world .remove u = true := by
    simp [openedNotWorking, Source.opened, hfd, Source.working_of_isClosed h]
  rw [removeNonWorkingSerialDevices_eq]
  simp [hon]

/-- A TTY whose descriptor was closed leaves the list, even while its device is
there. -/
theorem removeNonWorkingSerialDevices_drops_closed_tty :
    (((Manager.init [0, 1, 2]).add
      ⟨.tty, "/dev/ttyUSB0", 9600, -1, 0, false, false, false, false⟩).source 0).isClosed = true ∧
    0 ∉ (((Manager.init [0, 1, 2]).add
      ⟨.tty, "/dev/ttyUSB0", 9600, -1, 0, false, false, false, false⟩).removeNonWorkingSerialDevices
        (fun _ _ _ => ⟨true, true, 0, true⟩)).1.serialDevices :=
  ⟨by decide, removeNonWorkingSerialDevices_drops_closed _ _ (by decide)⟩

/-! ### The loop returns after `stop()`

Nothing sets `running_` back once it is false, and no step but the loop's own moves
the loop.  With `running_` false each step of the loop brings it closer to
returning: `loopBound` counts the steps left, and only a source added before the
sweep collects can add one.  So the loop returns within `loopBound` of its own
steps plus one per source added, whatever the other threads do in between. -/

/-- Steps the event loop has left once `running_` is false: at `top` or `select` it
returns; from the sweep it closes at most every listed source, removes, and tests
`running_` again. -/
def loopBound (m : Manager) : Nat :=
  match m.loop with
  | .top | .select => 1
  | .sweep => m.serialDevices.length + 3
  | .closing pending _ => pending.length + 2
  | .done => 0

theorem loopBound_le {m m' : Manager} {k : Nat} (hl : m'.loop = m.loop)
    (hs : m'.serialDevices.length ≤ m.serialDevices.length + k) :
    loopBound m' ≤ loopBound m + k := by
  unfold loopBound
  rw [hl]
  split <;> omega

theorem loopBound_eq_zero {m : Manager} (h : loopBound m = 0) : m.loop = .done := by
  unfold loopBound at h
  split at h <;> first | assumption | omega

/-- `closeEach` changes the sources and the table only. -/
theorem closeEach_frame : ∀ (m : Manager) (vs : List Nat),
    (m.closeEach world vs).1 =
      { m with sources := (m.closeEach world vs).1.sources, fds := (m.closeEach world vs).1.fds }
  | _, [] => rfl
  | m, v :: vs => closeEach_frame (m.closeSource world v).1 vs

theorem eventLoopStep_done {m : Manager} (hl : m.loop = .done) :
    m.eventLoopStep world = (m, []) := by
  simp [eventLoopStep, hl]

/-- With `running_` false, a step of the loop keeps it false and, unless the loop has
returned, brings it closer to returning. -/
theorem eventLoopStep_stopped (m : Manager) (hr : m.running = false) :
    (m.eventLoopStep world).1.running = false ∧
      (m.loop = .done ∨ loopBound (m.eventLoopStep world).1 < loopBound m) := by
  unfold eventLoopStep
  split
  · rename_i hl
    simp [hr, loopBound, hl]
  · rename_i hl
    simp [hr, loopBound, hl]
  · rename_i hl
    have := List.length_filter_le (fun u =>
      m.openedNotWorking world .sweep u && !(m.source u).isClosed) m.serialDevices
    simp only [loopBound, hl]
    exact ⟨hr, .inr (by omega)⟩
  · rename_i u us found hl
    simp [closeSource_eq, update, loopBound, hl, hr]
  · rename_i found hl
    simp only [removeNonWorkingSerialDevices_eq, hr, Bool.false_and]
    split_ifs <;> simp [stop, loopBound, hl]
  · rename_i hl
    exact ⟨hr, .inl hl⟩

/-- **What an action does to the loop.**  None sets `running_` back; any but the
loop's own leaves the loop where it is and lists at most one more source, a new
one. -/
theorem act_loop (m : Manager) (a : MgrAction) {m' : Manager} {evs : List MgrEvent}
    (h : m.act world a = .ok (m', evs)) :
    (m.running = false → m'.running = false) ∧
      (a.isEventLoop = false → m'.loop = m.loop ∧
        m'.serialDevices.length ≤ m.serialDevices.length + if a.creates then 1 else 0) := by
  cases a with
  | openSource v failIfNotOk answer =>
    simp only [act] at h
    split at h
    · cases h
    · cases h
      exact ⟨id, fun _ => ⟨rfl, Nat.le_refl _⟩⟩
  | receive v reads =>
    simp only [act] at h
    split at h <;> cases h <;> exact ⟨id, fun _ => ⟨rfl, Nat.le_refl _⟩⟩
  | close v | onDisappear v | resetInitiated v | resetCompleted v | expectDevicesToWork =>
    cases h
    exact ⟨id, fun _ => ⟨rfl, Nat.le_refl _⟩⟩
  | createSerialDeviceTTY | createSerialDeviceCommand | createSerialDeviceFile
  | createSerialDeviceSimulator =>
    cases h
    exact ⟨id, fun _ => ⟨rfl, by simp [add]⟩⟩
  | stop => cases h; exact ⟨fun _ => rfl, fun _ => ⟨rfl, Nat.le_refl _⟩⟩
  | closeAllDoNotRemove =>
    obtain ⟨rfl, rfl⟩ := Prod.ext_iff.mp (Except.ok.inj h)
    rw [closeAllDoNotRemove, closeEach_frame]
    exact ⟨id, fun _ => ⟨rfl, Nat.le_refl _⟩⟩
  | removeNonWorking =>
    cases h
    exact ⟨id, fun _ => ⟨rfl, by simpa [removeNonWorking] using List.length_filter_le _ _⟩⟩
  | removeNonWorkingSerialDevices =>
    obtain ⟨rfl, rfl⟩ := Prod.ext_iff.mp (Except.ok.inj h)
    rw [removeNonWorkingSerialDevices_eq]
    exact ⟨fun hr => by simp [hr], fun _ => ⟨rfl, by simpa using List.length_filter_le _ _⟩⟩
  | eventLoop =>
    obtain ⟨rfl, rfl⟩ := Prod.ext_iff.mp (Except.ok.inj h)
    exact ⟨fun hr => (eventLoopStep_stopped world m hr).1, fun h => absurd h (by simp)⟩

/-- Once returned, the loop stays returned. -/
theorem act_done {m m' : Manager} {a : MgrAction} {evs : List MgrEvent} (hl : m.loop = .done)
    (h : m.act world a = .ok (m', evs)) : m'.loop = .done := by
  cases ha : a.isEventLoop
  · rw [((act_loop world m a h).2 ha).1, hl]
  · cases a <;> simp only [MgrAction.isEventLoop, reduceCtorEq] at ha
    simp only [act, eventLoopStep_done world hl, Except.ok.injEq, Prod.mk.injEq] at h
    rw [← h.1, hl]

theorem run_done (m : Manager) (acts : List MgrAction) (hl : m.loop = .done) :
    (m.run world acts).1.loop = .done := by
  induction acts generalizing m with
  | nil => exact hl
  | cons a as ih =>
    rcases run_cons world m a as with ⟨msg, -, h⟩ | ⟨m', evs, hact, h⟩ <;> rw [h]
    · exact hl
    · exact ih _ (act_done world hl hact : m'.loop = .done)

/-- **The loop returns after `stop()`.**  Once `running_` is false, over any run in
which the loop takes `loopBound m` steps more than there are sources added, the loop
has returned, unless the program ended first through `error()`. -/
theorem run_returns_after_stop (m : Manager) (acts : List MgrAction) (hr : m.running = false)
    (hk : loopBound m + acts.countP (·.creates) ≤ acts.countP (·.isEventLoop)) :
    (m.run world acts).1.loop = .done ∨ ∃ msg, MgrEvent.exited msg ∈ (m.run world acts).2 := by
  induction acts generalizing m with
  | nil => exact .inl (loopBound_eq_zero (by simpa using hk))
  | cons a as ih =>
    rcases run_cons world m a as with ⟨msg, -, h⟩ | ⟨m', evs, hact, h⟩ <;> rw [h]
    · exact .inr ⟨msg, List.mem_singleton_self _⟩
    by_cases hl : m.loop = .done
    · exact .inl (run_done world _ as (act_done world hl hact : m'.loop = .done))
    have hnext : loopBound m' + (if a.isEventLoop then 1 else 0) ≤
        loopBound m + if a.creates then 1 else 0 := by
      cases ha : a.isEventLoop
      · have := loopBound_le ((act_loop world m a hact).2 ha).1 ((act_loop world m a hact).2 ha).2
        simpa using this
      · cases a <;> simp only [MgrAction.isEventLoop, reduceCtorEq] at ha
        simp only [act, Except.ok.injEq] at hact
        have := (eventLoopStep_stopped world m hr).2.resolve_left hl
        rw [hact] at this
        simp only [MgrAction.creates, MgrAction.isEventLoop, ite_true]
        exact this
    rcases ih { m' with clock := m.clock + 1 } ((act_loop world m a hact).1 hr)
      (by simp only [List.countP_cons] at hk; show loopBound m' + _ ≤ _; omega) with h' | ⟨msg, h'⟩
    · exact .inl h'
    · exact .inr ⟨msg, List.mem_append_right _ h'⟩

/-- Stopped at the sweep with one TTY whose device is gone: four steps of the loop
return it, and a fifth covers the file source added between them. -/
theorem run_returns_after_stop_sweep :
    let m : Manager := ⟨[⟨.tty, "/dev/ttyUSB0", 9600, 3, 0, false, false, false, false⟩], [0],
      [3, 0, 1, 2], false, true, .sweep, 0⟩
    let acts : List MgrAction := [.eventLoop, .createSerialDeviceFile "meter.bin", .eventLoop,
      .eventLoop, .eventLoop, .eventLoop]
    m.running = false ∧ loopBound m + acts.countP (·.creates) ≤ acts.countP (·.isEventLoop) ∧
      ((m.run (fun _ _ _ => ⟨false, true, 0, true⟩) acts).1.loop = .done ∨
        ∃ msg, MgrEvent.exited msg ∈ (m.run (fun _ _ _ => ⟨false, true, 0, true⟩) acts).2) :=
  ⟨rfl, by decide, run_returns_after_stop _ _ _ rfl (by decide)⟩

/-! ### The `onDisappear` hook

Only a `close()` runs the hook, and it clears it when it does
(`Source.close_hook_le`).  Counting a set hook as one, the runs of the hook so far
and the hook still set never exceed the registrations: each action keeps that,
so every run does. -/

/-- How often the hook of `u` ran, in a list of events. -/
def hookRuns (u : Nat) (evs : List MgrEvent) : Nat := evs.count (.disappeared u)

/-- One when the hook of `u` is set. -/
def hookSet (m : Manager) (u : Nat) : Nat := if (m.source u).onDisappear then 1 else 0

@[simp] theorem hookRuns_nil (u : Nat) : hookRuns u [] = 0 := rfl

@[simp] theorem hookRuns_append (u : Nat) (evs evs' : List MgrEvent) :
    hookRuns u (evs ++ evs') = hookRuns u evs + hookRuns u evs' := List.count_append _ _ _

@[simp] theorem hookRuns_map_removed (u : Nat) (l : List Nat) :
    hookRuns u (l.map .removed) = 0 :=
  List.count_eq_zero_of_not_mem (by simp)

@[simp] theorem hookRuns_cons_stopCalled (u : Nat) (evs : List MgrEvent) :
    hookRuns u (.stopCalled :: evs) = hookRuns u evs := rfl

/-- A position past the sources holds no source; its hook is not set. -/
theorem hookSet_of_le {m : Manager} {v : Nat} (hv : m.sources.length ≤ v) : hookSet m v = 0 := by
  simp [hookSet, source_of_le hv]

/-- A new source comes without a hook. -/
theorem hookSet_add_le (m : Manager) (s : Source) (hs : s.onDisappear = false) (u : Nat) :
    hookSet (m.add s) u ≤ hookSet m u := by
  simp only [hookSet, source_add]
  split_ifs <;> simp_all

/-- Replacing a source by one whose hook ran at most what was set keeps the count. -/
theorem hook_update (m : Manager) (v u : Nat) (s : Source) (fds : List Nat) (hook : Bool)
    (h : (if hook then 1 else 0) + (if s.onDisappear then 1 else 0) ≤ hookSet m v) :
    hookRuns u (if hook then [.disappeared v] else []) + hookSet (m.update v s fds) u ≤
      hookSet m u := by
  have hset : hookSet (m.update v s fds) u =
      if v = u ∧ v < m.sources.length then (if s.onDisappear then 1 else 0) else hookSet m u := by
    simp only [hookSet, source_update]
    split_ifs <;> rfl
  rw [hset]
  by_cases huv : v = u
  · subst huv
    by_cases hv : v < m.sources.length
    · cases hook <;> simp_all [hookRuns]
    · have h0 := hookSet_of_le (Nat.le_of_not_lt hv)
      cases hook <;> simp_all [hookRuns]
  · cases hook <;> simp [hookRuns, huv, List.count_singleton]

theorem closeSource_hook (m : Manager) (v u : Nat) :
    hookRuns u (m.closeSource world v).2 + hookSet (m.closeSource world v).1 u ≤ hookSet m u :=
  hook_update m v u _ _ _ (Source.close_hook_le _ _ _)

theorem closeEach_hook (u : Nat) : ∀ (m : Manager) (vs : List Nat),
    hookRuns u (m.closeEach world vs).2 + hookSet (m.closeEach world vs).1 u ≤ hookSet m u
  | m, [] => by simp [closeEach]
  | m, v :: vs => by
    have h₁ := closeSource_hook world m v u
    have h₂ := closeEach_hook u (m.closeSource world v).1 vs
    simp only [closeEach, hookRuns_append]
    omega

theorem eventLoopStep_hook (m : Manager) (u : Nat) :
    hookRuns u (m.eventLoopStep world).2 + hookSet (m.eventLoopStep world).1 u ≤ hookSet m u := by
  unfold eventLoopStep
  split
  · split_ifs <;> exact (Nat.zero_add _).le
  · split_ifs <;> exact (Nat.zero_add _).le
  · exact (Nat.zero_add _).le
  · exact closeSource_hook world m _ u
  · simp only [removeNonWorkingSerialDevices_eq]
    split_ifs <;> simp only [stop, hookRuns_append, hookRuns_map_removed, hookRuns_cons_stopCalled,
      hookRuns_nil, Nat.zero_add] <;> exact Nat.le_refl _
  · exact (Nat.zero_add _).le

/-- **One action keeps the count**: the hook of `u` runs, or stays set, at most as
often as it was set before or is registered now. -/
theorem act_hook (m : Manager) (a : MgrAction) (u : Nat) {m' : Manager} {evs : List MgrEvent}
    (h : m.act world a = .ok (m', evs)) :
    hookRuns u evs + hookSet m' u ≤ hookSet m u + if a.registers u then 1 else 0 := by
  cases a with
  | openSource v failIfNotOk answer =>
    simp only [act] at h
    split at h
    · cases h
    · rename_i s fds r hopen
      cases h
      have := (Source.open_keeps hopen).2.2.2
      have hu := hook_update m v u s fds false (by simp [hookSet, this])
      simpa using hu
  | close v => cases h; simpa using closeSource_hook world m v u
  | receive v reads =>
    simp only [act] at h
    split at h
    · cases h; simp
    · rename_i out hout
      cases h
      obtain ⟨pre, r, -, -, -, hclose⟩ := receive_spec hout
      have hle : (if out.hookRan then 1 else 0) + (if out.source.onDisappear then 1 else 0) ≤
          hookSet m v := by
        split_ifs at hclose
        · have h1 : out.source = ((m.source v).close m.fds (world m.clock v .close)).1 :=
            congrArg (·.1) hclose
          have h3 : out.hookRan = ((m.source v).close m.fds (world m.clock v .close)).2.2 :=
            congrArg (·.2.2) hclose
          rw [h1, h3]
          exact Source.close_hook_le _ _ _
        · simp only [Prod.mk.injEq] at hclose
          simp [hookSet, hclose.1, hclose.2.2]
      have hu := hook_update m v u out.source out.fds out.hookRan hle
      simp only [hookRuns_append] at hu ⊢
      have : hookRuns u [.received v out.data] = 0 := rfl
      omega
  | onDisappear v =>
    cases h
    by_cases huv : v = u
    · subst huv
      have : hookSet (m.update v (m.source v).setOnDisappear m.fds) v ≤ 1 := by
        simp only [hookSet]; split_ifs <;> simp
      simp; omega
    · have : hookSet (m.update v (m.source v).setOnDisappear m.fds) u = hookSet m u := by
        simp [hookSet, source_update, huv]
      simp [huv, this]
  | resetInitiated v | resetCompleted v =>
    cases h
    exact hook_update m v u _ m.fds false (Nat.le_of_eq (Nat.zero_add _))
  | createSerialDeviceTTY | createSerialDeviceCommand | createSerialDeviceFile
  | createSerialDeviceSimulator =>
    cases h
    exact (Nat.zero_add _).trans_le (hookSet_add_le m _ rfl u)
  | expectDevicesToWork | stop => cases h; exact Nat.le_of_eq (Nat.zero_add _)
  | closeAllDoNotRemove =>
    obtain ⟨rfl, rfl⟩ := Prod.ext_iff.mp (Except.ok.inj h)
    exact closeEach_hook world u m m.serialDevices
  | removeNonWorking =>
    cases h
    simp only [removeNonWorking, hookRuns_map_removed]
    exact Nat.le_of_eq (Nat.zero_add _)
  | removeNonWorkingSerialDevices =>
    obtain ⟨rfl, rfl⟩ := Prod.ext_iff.mp (Except.ok.inj h)
    simp only [removeNonWorkingSerialDevices_eq, hookRuns_append, hookRuns_map_removed]
    split_ifs <;> simp only [hookRuns_cons_stopCalled, hookRuns_nil, Nat.zero_add] <;>
      exact Nat.le_add_right _ _
  | eventLoop =>
    obtain ⟨rfl, rfl⟩ := Prod.ext_iff.mp (Except.ok.inj h)
    simpa using eventLoopStep_hook world m u

/-- **The hook runs at most once per registration**, over every run of the model,
where no two calls on one source overlap: the runs of the hook of `u`, and the hook
still set at the end, are at most the hook set at the start and the `onDisappear`
calls of the run. -/
theorem hookRuns_le (m : Manager) (acts : List MgrAction) (u : Nat) :
    hookRuns u (m.run world acts).2 + hookSet (m.run world acts).1 u ≤
      hookSet m u + acts.countP (·.registers u) := by
  induction acts generalizing m with
  | nil => simp [run]
  | cons a as ih =>
    rcases run_cons world m a as with ⟨msg, -, h⟩ | ⟨m', evs, hact, h⟩ <;> rw [h]
    · simp [hookRuns, List.countP_cons]
    · have h₁ := act_hook world m a u hact
      have h₂ := ih { m' with clock := m.clock + 1 }
      have hclock : hookSet { m' with clock := m.clock + 1 } u = hookSet m' u := rfl
      simp only [hookRuns_append, List.countP_cons]
      omega

/-- **The hook misses a file and fires for a TTY never opened.**  A file source
with its hook registered is opened, stops answering `FIONREAD`, and is closed and
removed by the sweep: the hook never runs.  A TTY with its hook registered and
never opened is closed by `closeAllDoNotRemove`: the hook runs. -/
theorem onDisappear_hook_misfires :
    let world : Nat → Nat → ProbeSite → Probe := fun _ _ _ => ⟨true, false, 0, true⟩
    let file := (Manager.init [0, 1, 2]).run world
      [.createSerialDeviceFile "meter.bin", .onDisappear 0,
        .openSource 0 false ⟨true, ⟨true, true, true, true, true, true⟩, true, false, 0⟩,
        .eventLoop, .eventLoop, .eventLoop, .eventLoop, .eventLoop]
    let tty := (Manager.init [0, 1, 2]).run world
      [.createSerialDeviceTTY "/dev/ttyUSB0" 9600, .onDisappear 0, .closeAllDoNotRemove]
    file.2 = [.removed 0] ∧ file.1.serialDevices = [] ∧ tty.2 = [.disappeared 0] := by
  decide

end Manager

end Wmbusmeters
