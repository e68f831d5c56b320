import Mathlib.Data.List.Chain
import Mathlib.Data.List.Nodup

/-
The serial manager's table of regular callbacks.

`startRegularCallback` appends a timer whose id is the number of timers already
in the table; `stopRegularCallback` erases the first timer carrying the id it is
given; `executeTimerCallbacks` stamps every due timer with the current time and
then calls the callbacks of the stamped copies, in table order.

An id is the table's size at registration, so it names the timer only as long as
no timer before it has been stopped.  `IdsAreIndices` says exactly that: every
timer's id is its position.  Starting a timer and ticking keep it, and so does
stopping the newest timer; then the ids are pairwise distinct and a stop erases
the timer it names, over every run whose stops name the newest timer
(`runTimers_ids_nodup`).  Stopping any other timer breaks it, and the next
registration reuses a live timer's id: `stopRegularCallback_erases_other_timer`
runs that case to the end, where the stopped callback keeps being called and the
live one is never called again.

What the table is for is the spec's account of each registration, which keeps the
times it was invoked at (`schedule`).  The table keeps only the latest of them, in
`last_call`; `Tracks` relates the two and every start and tick keeps it, so that
over every run of starts and ticks a tick invokes exactly the registrations due,
each once, and one registration's invocations are a period apart
(`executeTimerCallbacks_invokes_due`).
-/

namespace Wmbusmeters

/-- A registered regular callback.  `Cb` stands for the `function<void()>` it
calls; only its identity matters here. -/
structure Timer (Cb : Type) where
  id : Int
  seconds : Int
  lastCall : Int
  callback : Cb
  name : String
  deriving DecidableEq, Repr

variable {Cb : Type}

/-- `Timer::isTime`. -/
def Timer.isTime (t : Timer Cb) (now : Int) : Bool := decide (t.lastCall + t.seconds ≤ now)

/-- `startRegularCallback(name, seconds, callback)` at clock time `now`: the new
table and the id it returns. -/
def startRegularCallback (timers : List (Timer Cb)) (name : String) (seconds : Int)
    (callback : Cb) (now : Int) : List (Timer Cb) × Int :=
  (timers ++ [⟨timers.length, seconds, now, callback, name⟩], timers.length)

/-- `stopRegularCallback(id)`: erase the first timer with that id. -/
def stopRegularCallback (timers : List (Timer Cb)) (id : Int) : List (Timer Cb) :=
  timers.eraseP fun t => t.id == id

/-- `executeTimerCallbacks` at clock time `curr`: the table with every due timer's
`last_call` set to `curr`, and the callbacks of the due timers in the order they
are called. -/
def executeTimerCallbacks (timers : List (Timer Cb)) (curr : Int) : List (Timer Cb) × List Cb :=
  (timers.map fun t => if t.isTime curr then { t with lastCall := curr } else t,
    (timers.filter (·.isTime curr)).map (·.callback))

/-- A call on the timer table. -/
inductive TimerOp (Cb : Type) where
  | start (name : String) (seconds : Int) (callback : Cb) (now : Int)
  | stop (id : Int)
  | tick (curr : Int)

/-- What a caller of the table observes. -/
inductive TimerEvent (Cb : Type) where
  | started (id : Int)
  | invoked (callback : Cb)
  deriving DecidableEq, Repr

/-- One call on the table. -/
def TimerOp.apply (timers : List (Timer Cb)) : TimerOp Cb → List (Timer Cb) × List (TimerEvent Cb)
  | .start name seconds callback now =>
    let (timers', id) := startRegularCallback timers name seconds callback now
    (timers', [.started id])
  | .stop id => (stopRegularCallback timers id, [])
  | .tick curr =>
    let (timers', called) := executeTimerCallbacks timers curr
    (timers', called.map .invoked)

/-- A sequence of calls on the table, with everything observed in order. -/
def runTimers (timers : List (Timer Cb)) : List (TimerOp Cb) → List (Timer Cb) × List (TimerEvent Cb)
  | [] => (timers, [])
  | op :: ops =>
    let (timers₁, evs₁) := op.apply timers
    let (timers₂, evs₂) := runTimers timers₁ ops
    (timers₂, evs₁ ++ evs₂)

/-! ### When ids name timers -/

/-- Every timer's id is its position in the table. -/
def IdsAreIndices (timers : List (Timer Cb)) : Prop :=
  ∀ i (h : i < timers.length), (timers.get ⟨i, h⟩).id = i

theorem idsAreIndices_nil : IdsAreIndices ([] : List (Timer Cb)) := fun _ h => absurd h (by simp)

theorem IdsAreIndices.start {timers : List (Timer Cb)} (h : IdsAreIndices timers)
    (name : String) (seconds : Int) (callback : Cb) (now : Int) :
    IdsAreIndices (startRegularCallback timers name seconds callback now).1 := by
  intro i hi
  simp only [startRegularCallback, List.length_append, List.length_singleton] at hi ⊢
  rcases Nat.lt_succ_iff_lt_or_eq.mp hi with hlt | rfl
  · rw [List.get_eq_getElem, List.getElem_append_left hlt]; exact h i hlt
  · simp

/-- The stamping of due timers touches no id. -/
theorem executeTimerCallbacks_ids (timers : List (Timer Cb)) (curr : Int) :
    (executeTimerCallbacks timers curr).1.map (·.id) = timers.map (·.id) := by
  simp only [executeTimerCallbacks, List.map_map]
  congr 1
  funext t
  simp only [Function.comp]
  split <;> rfl

theorem IdsAreIndices.of_map_id {timers timers' : List (Timer Cb)} (h : IdsAreIndices timers)
    (hids : timers'.map (·.id) = timers.map (·.id)) : IdsAreIndices timers' := by
  intro i hi
  have hlen : timers'.length = timers.length := by simpa using congrArg List.length hids
  have := congrArg (fun l => l.get? i) hids
  simp only [List.get?_eq_getElem?, List.getElem?_map, List.getElem?_eq_getElem hi,
    List.getElem?_eq_getElem (hlen ▸ hi), Option.map_some', Option.some.injEq] at this
  rw [List.get_eq_getElem, this]
  exact h i (hlen ▸ hi)

/-- Erasing the newest timer leaves the others where they were. -/
theorem IdsAreIndices.stop_newest {timers : List (Timer Cb)} (h : IdsAreIndices timers) :
    IdsAreIndices (stopRegularCallback timers (timers.length - 1)) := by
  rcases List.eq_nil_or_concat timers with rfl | ⟨rest, last, rfl⟩
  · exact idsAreIndices_nil
  rw [List.concat_eq_append] at h ⊢
  have hrest : IdsAreIndices rest := fun i hi => by
    have := h i (by simp; omega)
    rwa [List.get_eq_getElem, List.getElem_append_left hi] at this
  have hlast : last.id = rest.length := by simpa using h rest.length (by simp)
  have hnone : ∀ t ∈ rest, ¬ (t.id == ((rest ++ [last]).length - 1 : Nat)) = true := by
    intro t ht
    obtain ⟨i, hi, rfl⟩ := List.getElem_of_mem ht
    have := hrest i hi
    simp only [List.get_eq_getElem] at this
    simp [this]; omega
  simp only [stopRegularCallback, List.eraseP_append_left, List.length_append,
    List.length_singleton, Nat.add_sub_cancel]
  rw [List.eraseP_append_right _ (by simpa using hnone)]
  simpa [hlast] using hrest

/-- Ids that are positions are pairwise distinct. -/
theorem IdsAreIndices.nodup {timers : List (Timer Cb)} (h : IdsAreIndices timers) :
    (timers.map (·.id)).Nodup := by
  rw [List.nodup_iff_injective_get]
  intro i j hij
  have hi := h i (by simpa using i.2)
  have hj := h j (by simpa using j.2)
  simp only [List.get_eq_getElem, List.getElem_map] at hij hi hj
  exact Fin.ext (by omega)

/-- Erasing the newest timer shortens the table by one. -/
theorem IdsAreIndices.length_stop_newest {timers : List (Timer Cb)} (h : IdsAreIndices timers) :
    (stopRegularCallback timers (timers.length - 1)).length = timers.length - 1 := by
  rcases List.eq_nil_or_concat timers with rfl | ⟨rest, last, rfl⟩
  · rfl
  rw [List.concat_eq_append] at h ⊢
  have hlast : last.id = rest.length := by simpa using h rest.length (by simp)
  exact List.length_eraseP_of_mem (List.mem_append_right rest (List.mem_singleton_self last))
    (by simp [hlast])

/-- Whether every stop among the calls names the newest timer, the table holding `n`
timers before them: the stop takes the id that the last start not yet stopped
returned. -/
def stopsNewest : Nat → List (TimerOp Cb) → Bool
  | _, [] => true
  | n, .start .. :: ops => stopsNewest (n + 1) ops
  | n, .stop id :: ops => id == (n : Int) - 1 && stopsNewest (n - 1) ops
  | n, .tick _ :: ops => stopsNewest n ops

@[simp] theorem TimerOp.apply_start_fst (timers : List (Timer Cb)) (name : String) (seconds : Int)
    (callback : Cb) (now : Int) :
    ((TimerOp.start name seconds callback now).apply timers).1 =
      (startRegularCallback timers name seconds callback now).1 := rfl

@[simp] theorem TimerOp.apply_stop_fst (timers : List (Timer Cb)) (id : Int) :
    ((TimerOp.stop id).apply timers).1 = stopRegularCallback timers id := rfl

@[simp] theorem TimerOp.apply_tick_fst (timers : List (Timer Cb)) (curr : Int) :
    ((TimerOp.tick curr).apply timers).1 = (executeTimerCallbacks timers curr).1 := rfl

@[simp] theorem runTimers_cons_fst (timers : List (Timer Cb)) (op : TimerOp Cb)
    (ops : List (TimerOp Cb)) :
    (runTimers timers (op :: ops)).1 = (runTimers (op.apply timers).1 ops).1 := rfl

/-- A run keeps `IdsAreIndices` while every stop names the newest timer. -/
theorem runTimers_idsAreIndices {timers : List (Timer Cb)} {ops : List (TimerOp Cb)}
    (h : IdsAreIndices timers) (hs : stopsNewest timers.length ops = true) :
    IdsAreIndices (runTimers timers ops).1 := by
  induction ops generalizing timers with
  | nil => exact h
  | cons op ops ih =>
    rw [runTimers_cons_fst]
    cases op with
    | start name seconds callback now =>
      exact ih (h.start name seconds callback now)
        (by simpa [stopsNewest, startRegularCallback] using hs)
    | stop id =>
      simp only [stopsNewest, Bool.and_eq_true, beq_iff_eq] at hs
      obtain ⟨rfl, hs⟩ := hs
      exact ih h.stop_newest (by rwa [TimerOp.apply_stop_fst, h.length_stop_newest])
    | tick curr =>
      exact ih (h.of_map_id (executeTimerCallbacks_ids timers curr))
        (by simpa [stopsNewest, executeTimerCallbacks] using hs)

/-- **Ids are distinct while every stop names the newest timer**: from an empty
table, whatever is started and ticked in between. -/
theorem runTimers_ids_nodup {ops : List (TimerOp Cb)} (hs : stopsNewest 0 ops = true) :
    ((runTimers [] ops).1.map (·.id)).Nodup :=
  (runTimers_idsAreIndices idsAreIndices_nil hs).nodup

/-- Two timers, the newer stopped, a third started: its id 1 is not the live first
timer's. -/
theorem runTimers_ids_nodup_newest_stopped :
    stopsNewest 0 [.start "a" 1 "a" 0, .start "b" 1 "b" 0, .stop 1, .start "c" 1 "c" 0,
      .tick 10] = true ∧
    ((runTimers [] [.start "a" 1 "a" 0, .start "b" 1 "b" 0, .stop 1, .start "c" 1 "c" 0,
      .tick 10]).1.map (·.id)).Nodup :=
  ⟨by decide, runTimers_ids_nodup (by decide)⟩

/-! ### An id that names two timers -/

/-- Stopping the older of two timers and starting a third makes the third's id the
id of the one still running: the stop meant for the third erases the other, and
from then on the third's callback is called at every tick and the other's never. -/
theorem stopRegularCallback_erases_other_timer :
    runTimers [] [.start "a" 1 "a" 0, .start "b" 1 "b" 0, .stop 0, .start "c" 1 "c" 0,
      .stop 1, .tick 10] =
      ([⟨1, 1, 10, "c", "c"⟩], [.started 0, .started 1, .started 1, .invoked "c"]) := by
  decide

/-! ### What the table is for -/

/-- A registration as the spec accounts for it: its callback and period, when it
was registered, and the times it has been invoked at, oldest first. -/
structure Registration (Cb : Type) where
  callback : Cb
  seconds : Int
  registered : Int
  invocations : List Int
  deriving DecidableEq, Repr

/-- The time the period counts from: the last invocation, or the registration
before the first. -/
def Registration.previous (r : Registration Cb) : Int :=
  r.invocations.getLast?.getD r.registered

/-- A registration is due at `t` once `t` is a period past its previous invocation. -/
def Registration.isDue (r : Registration Cb) (t : Int) : Bool :=
  decide (r.previous + r.seconds ≤ t)

/-- A tick at `t` in the spec's account: a due registration is invoked at `t`. -/
def Registration.tick (r : Registration Cb) (t : Int) : Registration Cb :=
  if r.isDue t then { r with invocations := r.invocations ++ [t] } else r

/-- One call in the spec's account: a start adds a registration not yet invoked, a
tick invokes every due registration once, in registration order.  Stops are outside
the account; the theorems below take runs without them. -/
def scheduleStep (regs : List (Registration Cb)) :
    TimerOp Cb → List (Registration Cb) × List (TimerEvent Cb)
  | .start _ seconds callback now =>
    (regs ++ [⟨callback, seconds, now, []⟩], [.started regs.length])
  | .stop _ => (regs, [])
  | .tick t => (regs.map (·.tick t), (regs.filter (·.isDue t)).map fun r => .invoked r.callback)

/-- The spec's account of a sequence of calls. -/
def schedule (regs : List (Registration Cb)) :
    List (TimerOp Cb) → List (Registration Cb) × List (TimerEvent Cb)
  | [] => (regs, [])
  | op :: ops =>
    let (regs₁, evs₁) := scheduleStep regs op
    let (regs₂, evs₂) := schedule regs₁ ops
    (regs₂, evs₁ ++ evs₂)

/-- Whether a call is a stop. -/
def TimerOp.isStop : TimerOp Cb → Bool
  | .stop _ => true
  | _ => false

@[simp] theorem runTimers_cons_snd (timers : List (Timer Cb)) (op : TimerOp Cb)
    (ops : List (TimerOp Cb)) :
    (runTimers timers (op :: ops)).2 =
      (op.apply timers).2 ++ (runTimers (op.apply timers).1 ops).2 :=
  rfl

/-- The events of a run over `ops ++ ops'` are those over `ops`, then those over
`ops'` from where `ops` left the table. -/
theorem runTimers_append_snd (timers : List (Timer Cb)) (ops ops' : List (TimerOp Cb)) :
    (runTimers timers (ops ++ ops')).2 =
      (runTimers timers ops).2 ++ (runTimers (runTimers timers ops).1 ops').2 := by
  induction ops generalizing timers with
  | nil => rfl
  | cons op ops ih => simp only [List.cons_append, runTimers_cons_snd, runTimers_cons_fst, ih,
      List.append_assoc]

/-! #### The table refines the account -/

/-- What a timer and a registration share: callback, period, and the time the
period counts from. -/
def Timer.view (t : Timer Cb) : Cb × Int × Int := (t.callback, t.seconds, t.lastCall)

/-- See `Timer.view`. -/
def Registration.view (r : Registration Cb) : Cb × Int × Int :=
  (r.callback, r.seconds, r.previous)

/-- Whether a shared view is due at `t`. -/
def dueView (t : Int) (v : Cb × Int × Int) : Bool := decide (v.2.2 + v.2.1 ≤ t)

/-- A tick at `t` on a shared view. -/
def tickView (t : Int) (v : Cb × Int × Int) : Cb × Int × Int :=
  if dueView t v then (v.1, v.2.1, t) else v

/-- The table tracks the account: timer by timer the same callback and period, and
`last_call` the time the period counts from. -/
def Tracks (timers : List (Timer Cb)) (regs : List (Registration Cb)) : Prop :=
  timers.map Timer.view = regs.map Registration.view

theorem Timer.isTime_eq_dueView (t : Timer Cb) (now : Int) : t.isTime now = dueView now t.view :=
  rfl

theorem Registration.isDue_eq_dueView (r : Registration Cb) (t : Int) :
    r.isDue t = dueView t r.view :=
  rfl

theorem Timer.view_stamp (t : Timer Cb) (curr : Int) :
    (if t.isTime curr then { t with lastCall := curr } else t).view = tickView curr t.view := by
  rw [tickView, ← Timer.isTime_eq_dueView]
  split <;> rfl

theorem Registration.view_tick (r : Registration Cb) (t : Int) :
    (r.tick t).view = tickView t r.view := by
  rw [Registration.tick, tickView, ← Registration.isDue_eq_dueView]
  split
  · simp [Registration.view, Registration.previous]
  · rfl

theorem tracks_nil : Tracks ([] : List (Timer Cb)) [] := rfl

theorem Tracks.length_eq {timers : List (Timer Cb)} {regs : List (Registration Cb)}
    (h : Tracks timers regs) : timers.length = regs.length := by
  simpa using congrArg List.length h

theorem Tracks.start {timers : List (Timer Cb)} {regs : List (Registration Cb)}
    (h : Tracks timers regs) (name : String) (seconds : Int) (callback : Cb) (now : Int) :
    Tracks (startRegularCallback timers name seconds callback now).1
      (regs ++ [⟨callback, seconds, now, []⟩]) := by
  unfold Tracks at h ⊢
  rw [startRegularCallback, List.map_append, List.map_append, h]
  rfl

theorem Tracks.tick {timers : List (Timer Cb)} {regs : List (Registration Cb)}
    (h : Tracks timers regs) (t : Int) :
    Tracks (executeTimerCallbacks timers t).1 (regs.map (·.tick t)) :=
  calc (executeTimerCallbacks timers t).1.map Timer.view
      = (timers.map Timer.view).map (tickView t) := by
        simp only [executeTimerCallbacks, List.map_map, Function.comp_def, Timer.view_stamp]
    _ = (regs.map Registration.view).map (tickView t) := by rw [h]
    _ = (regs.map (·.tick t)).map Registration.view := by
        simp only [List.map_map, Function.comp_def, Registration.view_tick]

/-- The callbacks a tick calls are those of the due registrations. -/
theorem Tracks.tick_called {timers : List (Timer Cb)} {regs : List (Registration Cb)}
    (h : Tracks timers regs) (t : Int) :
    (executeTimerCallbacks timers t).2 = (regs.filter (·.isDue t)).map (·.callback) :=
  calc (executeTimerCallbacks timers t).2
      = ((timers.map Timer.view).filter (dueView t)).map (·.1) := by
        rw [List.filter_map, List.map_map]; rfl
    _ = ((regs.map Registration.view).filter (dueView t)).map (·.1) := by rw [h]
    _ = (regs.filter (·.isDue t)).map (·.callback) := by
        rw [List.filter_map, List.map_map]; rfl

/-- Over a run of starts and ticks the table keeps tracking the account, and the
two observe the same. -/
theorem runTimers_tracks {timers : List (Timer Cb)} {regs : List (Registration Cb)}
    {ops : List (TimerOp Cb)} (h : Tracks timers regs) (hs : ∀ op ∈ ops, op.isStop = false) :
    Tracks (runTimers timers ops).1 (schedule regs ops).1 ∧
      (runTimers timers ops).2 = (schedule regs ops).2 := by
  induction ops generalizing timers regs with
  | nil => exact ⟨h, rfl⟩
  | cons op ops ih =>
    have hs' := fun o ho => hs o (List.mem_cons_of_mem op ho)
    cases op with
    | start name seconds callback now =>
      obtain ⟨ht, he⟩ := ih (h.start name seconds callback now) hs'
      refine ⟨ht, ?_⟩
      rw [runTimers_cons_snd, TimerOp.apply_start_fst, he]
      simp [TimerOp.apply, startRegularCallback, schedule, scheduleStep, h.length_eq]
    | stop id => exact absurd (hs _ (List.mem_cons_self _ _)) (by simp [TimerOp.isStop])
    | tick curr =>
      obtain ⟨ht, he⟩ := ih (h.tick curr) hs'
      exact ⟨ht, by simp [TimerOp.apply, schedule, scheduleStep, he, h.tick_called curr]⟩

/-! #### Invocations are a period apart -/

/-- Each invocation of a registration is at least a period after the one before, the
first a period after the registration. -/
def Registration.Spaced (r : Registration Cb) : Prop :=
  (r.registered :: r.invocations).Chain' fun a b => a + r.seconds ≤ b

theorem Registration.Spaced.tick {r : Registration Cb} (h : r.Spaced) (t : Int) :
    (r.tick t).Spaced := by
  unfold Registration.tick
  split
  · next hdue =>
    refine List.Chain'.append h (List.chain'_singleton t) fun x hx y hy => ?_
    simp only [List.getLast?_cons, Option.mem_def, Option.some.injEq, List.head?_cons] at hx hy
    subst hx hy
    simpa [Registration.isDue, Registration.previous] using hdue
  · exact h

theorem schedule_spaced {regs : List (Registration Cb)} (h : ∀ r ∈ regs, r.Spaced)
    (ops : List (TimerOp Cb)) : ∀ r ∈ (schedule regs ops).1, r.Spaced := by
  induction ops generalizing regs with
  | nil => exact h
  | cons op ops ih =>
    apply ih
    cases op with
    | start name seconds callback now =>
      simp only [scheduleStep, List.mem_append, List.mem_singleton]
      rintro r (hr | rfl)
      exacts [h r hr, List.chain'_singleton _]
    | stop id => exact h
    | tick t =>
      simp only [scheduleStep, List.mem_map]
      rintro _ ⟨r, hr, rfl⟩
      exact (h r hr).tick t

/-- **A tick invokes exactly the due registrations**: over every run of starts and
ticks from an empty table, a tick at `t` calls the callback of every registration
whose previous invocation (its registration before the first) is a period before
`t`, once each and in registration order, and of no other; and each registration's
invocations are at least a period apart. -/
theorem executeTimerCallbacks_invokes_due (pre : List (TimerOp Cb)) (t : Int)
    (hs : ∀ op ∈ pre, op.isStop = false) :
    (runTimers [] (pre ++ [.tick t])).2 =
        (runTimers [] pre).2 ++
          ((schedule [] pre).1.filter (·.isDue t)).map (fun r => .invoked r.callback) ∧
      ∀ r ∈ (schedule [] pre).1, r.Spaced := by
  refine ⟨?_, schedule_spaced (by simp) pre⟩
  have htr := (runTimers_tracks tracks_nil hs).1
  rw [runTimers_append_snd]
  simp [runTimers, TimerOp.apply, htr.tick_called t]

/-- A timer started at 0 every 10 seconds and one started at 5 every 3 seconds; both
are invoked at 10, and the tick at 13 finds only the second due again. -/
theorem executeTimerCallbacks_invokes_due_two_timers :
    let pre : List (TimerOp String) := [.start "a" 10 "a" 0, .tick 5, .start "b" 3 "b" 5, .tick 10]
    (∀ op ∈ pre, op.isStop = false) ∧
      ((runTimers [] (pre ++ [.tick 13])).2 =
          (runTimers [] pre).2 ++
            ((schedule [] pre).1.filter (·.isDue 13)).map (fun r => .invoked r.callback) ∧
        ∀ r ∈ (schedule [] pre).1, r.Spaced) :=
  ⟨by decide, executeTimerCallbacks_invokes_due _ 13 (by decide)⟩

example : (runTimers [] [.start "a" 10 "a" 0, .tick 5, .start "b" 3 "b" 5, .tick 10, .tick 13]).2 =
    [.started 0, .started 1, .invoked "a", .invoked "b", .invoked "b"] := by
  decide

/-! ### The time to the nearest callback

`calculateTimeToNearestTimerCallback` is declared and defined, and nothing calls it.
It says how long the timer thread could sleep: the time left until the first timer
falls due, at most 2^30 seconds. -/

/-- One turn of its loop: the time left until `t` falls due, when that is less. -/
def nearestStep (now r : Int) (t : Timer Cb) : Int :=
  if t.lastCall + t.seconds - now < r then t.lastCall + t.seconds - now else r

/-- `calculateTimeToNearestTimerCallback(now)`. -/
def calculateTimeToNearestTimerCallback (timers : List (Timer Cb)) (now : Int) : Int :=
  timers.foldl (nearestStep now) (1024 * 1024 * 1024)

/-- The loop ends on the least of where it started and each timer's time left. -/
theorem foldl_nearestStep (now : Int) (timers : List (Timer Cb)) (r : Int) :
    timers.foldl (nearestStep now) r ≤ r ∧
      (∀ t ∈ timers, timers.foldl (nearestStep now) r ≤ t.lastCall + t.seconds - now) ∧
      (timers.foldl (nearestStep now) r = r ∨
        ∃ t ∈ timers, timers.foldl (nearestStep now) r = t.lastCall + t.seconds - now) := by
  induction timers generalizing r with
  | nil => simp
  | cons t ts ih =>
    have hstep : nearestStep now r t ≤ r ∧ nearestStep now r t ≤ t.lastCall + t.seconds - now ∧
        (nearestStep now r t = r ∨ nearestStep now r t = t.lastCall + t.seconds - now) := by
      unfold nearestStep
      split_ifs <;> omega
    obtain ⟨h1, h2, h3⟩ := ih (nearestStep now r t)
    rw [List.foldl_cons]
    refine ⟨h1.trans hstep.1, fun u hu => ?_, ?_⟩
    · rcases List.mem_cons.mp hu with rfl | hu
      · exact h1.trans hstep.2.1
      · exact h2 u hu
    · rcases h3 with h3 | ⟨u, hu, h3⟩
      · rcases hstep.2.2 with h | h
        · exact .inl (h3.trans h)
        · exact .inr ⟨t, List.mem_cons_self _ _, h3.trans h⟩
      · exact .inr ⟨u, List.mem_cons_of_mem _ hu, h3⟩

/-- **The nearest callback.**  Whatever the table and the clock, the result is at
most 2^30 seconds, and no timer falls due before `now` plus the result; unless the
result is that cap, some timer falls due exactly then.  Waking at `now` plus the
result misses no callback and, below the cap, finds one due. -/
theorem calculateTimeToNearestTimerCallback_first_due (timers : List (Timer Cb)) (now : Int) :
    calculateTimeToNearestTimerCallback timers now ≤ 1024 * 1024 * 1024 ∧
      ∀ x, ((∃ t ∈ timers, t.isTime x = true) →
          now + calculateTimeToNearestTimerCallback timers now ≤ x) ∧
        (calculateTimeToNearestTimerCallback timers now < 1024 * 1024 * 1024 →
          now + calculateTimeToNearestTimerCallback timers now ≤ x →
            ∃ t ∈ timers, t.isTime x = true) := by
  obtain ⟨h1, h2, h3⟩ := foldl_nearestStep now timers (1024 * 1024 * 1024)
  refine ⟨h1, fun x => ⟨fun ⟨t, ht, hdue⟩ => ?_, fun hlt hx => ?_⟩⟩
  · have := h2 t ht
    simp only [Timer.isTime, decide_eq_true_eq] at hdue
    unfold calculateTimeToNearestTimerCallback
    omega
  · rcases h3 with h3 | ⟨t, ht, h3⟩
    · exact absurd h3 (Int.ne_of_lt hlt)
    · refine ⟨t, ht, ?_⟩
      simp only [Timer.isTime, decide_eq_true_eq]
      unfold calculateTimeToNearestTimerCallback at hx
      omega

end Wmbusmeters
