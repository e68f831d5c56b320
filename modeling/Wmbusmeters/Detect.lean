import Wmbusmeters.Manager
import Wmbusmeters.Simulator

/-
Detecting a raw M-Bus device, and the source a failed detection leaves behind.

`detectMBUS` cannot talk to the other end, so it only asks the manager for a TTY
source on the specified file and tries to open it, without `fail_if_not_ok`.  The
manager lists the source as soon as it is created.  When the device node is
missing, or another process holds its lock, `open` leaves no descriptor in the
source (`fd_` stays, or is set back to, -2) and `detectMBUS` returns `NotThere`
without closing it.

Such a source counts as not opened, and nothing the manager does by itself removes
a source that is not opened: `removeNonWorkingSerialDevices` and `removeNonWorking`
erase only sources opened and not working, and the event loop's sweep closes only
those.  `Unopened` says what such a source is, every action that does not touch the
source keeps it (`Unopened.act`), so every run does (`Unopened.run`).
`detectMBUS_leaves_source` puts the two together: after a failed detection the
list of sources never empties again over a run that leaves that source alone, and
`waitForStop`'s exit on an empty list is not taken.
-/

namespace Wmbusmeters

variable (world : Nat → Nat → ProbeSite → Probe)

/-- `detectMBUS(detected, manager)`: `createSerialDeviceTTY` lists a TTY source for the
specified file at `atoi(bps)` baud, and `open(false)` tries it.  Unless `open`
answers `AccessOK` the result is `NotThere`, the source left as `open` left it;
otherwise `close()` closes it again and the result is `AccessOK`.  `setAsFound`,
which records the device in `detected`, is not among the sources. -/
def detectMBUS (m : Manager) (file bps : String) (answer : OpenAnswer) :
    Except String (Manager × List MgrEvent × AccessCheck) :=
  let u := m.sources.length
  let m := m.add ⟨.tty, file, atoi bps.toList, -2, 0, false, false, false, false⟩
  match (m.source u).open false answer m.fds with
  | .error msg => .error msg
  | .ok (s, fds, rc) =>
    let m := m.update u s fds
    if rc ≠ .accessOK then .ok (m, [], .notThere)
    else .ok ((m.closeSource world u).1, (m.closeSource world u).2, .accessOK)

/-- Whether the action can give source `u` a descriptor or a reset, or close it:
`open`, `close`, `receive` and `resetInitiated` on it, and `closeAllDoNotRemove`. -/
@[simp] def MgrAction.touches (u : Nat) : MgrAction → Bool
  | .openSource v .. | .close v | .receive v _ | .resetInitiated v => v == u
  | .closeAllDoNotRemove => true
  | _ => false

namespace Manager

/-- Source `u` is listed, and holds neither a descriptor nor a reset, so it counts as
not opened; nor is it among the sources the event loop has still to close. -/
structure Unopened (m : Manager) (u : Nat) : Prop where
  /-- It is in `serial_devices_`. -/
  listed : u ∈ m.serialDevices
  /-- It has been created. -/
  created : u < m.sources.length
  /-- `fd_` is still -2: never opened. -/
  noFd : (m.source u).fd = -2
  notReset : (m.source u).resetting = false
  /-- The event loop is not about to close it. -/
  notPending : ∀ pending found, m.loop = .closing pending found → u ∉ pending

section Unopened

variable {m : Manager} {u : Nat}

/-- An unopened source is never found opened and not working, whatever the system
says. -/
theorem Unopened.not_openedNotWorking (h : m.Unopened u) (site : ProbeSite) :
    m.openedNotWorking world site u = false := by
  simp [openedNotWorking, Source.opened, h.noFd, h.notReset]

/-- Changing the record but not the sources, the list or the loop. -/
theorem Unopened.frame (h : m.Unopened u) {m' : Manager} (hs : m'.sources = m.sources)
    (hl : m'.serialDevices = m.serialDevices) (hloop : m'.loop = m.loop) : m'.Unopened u := by
  have hsrc : m'.source u = m.source u := by simp only [source, hs]
  exact ⟨hl ▸ h.listed, hs ▸ h.created, hsrc ▸ h.noFd, hsrc ▸ h.notReset, hloop ▸ h.notPending⟩

/-- Moving the loop anywhere but to closing a list that holds `u`. -/
theorem Unopened.setLoop (h : m.Unopened u) {l : LoopPc}
    (hl : ∀ pending found, l = .closing pending found → u ∉ pending) :
    ({ m with loop := l } : Manager).Unopened u :=
  ⟨h.listed, h.created, h.noFd, h.notReset, hl⟩

/-- Replacing another source, or this one by one still without descriptor or reset. -/
theorem Unopened.update (h : m.Unopened u) {v : Nat} {s : Source} (fds : List Nat)
    (hs : v = u → s.fd = -2 ∧ s.resetting = false) : (m.update v s fds).Unopened u := by
  have hsrc := source_update m v u s fds
  refine ⟨h.listed, by simpa [Manager.update] using h.created, ?_, ?_, h.notPending⟩ <;>
    rw [hsrc] <;> split_ifs with hv
  exacts [(hs hv.1).1, h.noFd, (hs hv.1).2, h.notReset]

theorem Unopened.add (h : m.Unopened u) (s : Source) : (m.add s).Unopened u := by
  have hsrc : (m.add s).source u = m.source u := by rw [source_add, if_neg (Nat.ne_of_lt h.created)]
  exact ⟨List.mem_append_left _ h.listed, by simpa [Manager.add] using Nat.lt_succ_of_lt h.created,
    hsrc ▸ h.noFd, hsrc ▸ h.notReset,
      h.notPending⟩

theorem Unopened.closeSource (h : m.Unopened u) {v : Nat} (hv : v ≠ u) :
    (m.closeSource world v).1.Unopened u := by
  rw [closeSource_eq]
  exact h.update _ fun hvu => absurd hvu hv

theorem Unopened.stop (h : m.Unopened u) : m.stop.1.Unopened u := h.frame rfl rfl rfl

theorem Unopened.removeNonWorkingSerialDevices (h : m.Unopened u) :
    (m.removeNonWorkingSerialDevices world).1.Unopened u := by
  rw [removeNonWorkingSerialDevices_eq]
  exact ⟨List.mem_filter.2 ⟨h.listed, by simp [h.not_openedNotWorking world]⟩, h.created, h.noFd,
    h.notReset, h.notPending⟩

theorem Unopened.removeNonWorking (h : m.Unopened u) (device : String) :
    (m.removeNonWorking world device).1.Unopened u :=
  ⟨List.mem_filter.2 ⟨h.listed, by simp [h.not_openedNotWorking world]⟩, h.created, h.noFd,
    h.notReset, h.notPending⟩

/-- The event loop never picks an unopened source to close: its sweep collects the
sources opened and not working, and the ones it closes are others. -/
theorem Unopened.eventLoopStep (h : m.Unopened u) : (m.eventLoopStep world).1.Unopened u := by
  unfold Manager.eventLoopStep
  split
  · split_ifs
    · exact h.setLoop (by simp)
    · exact h.stop.setLoop (by simp)
    · exact h.setLoop (by simp)
  · split_ifs <;> exact h.setLoop (by simp)
  · refine h.setLoop fun pending found hl => ?_
    cases hl
    simp [h.not_openedNotWorking world]
  · rename_i v us found hloop
    have hv : v ≠ u := fun hvu => h.notPending _ _ hloop (hvu ▸ List.mem_cons_self _ _)
    refine (h.closeSource world hv).setLoop fun pending found' hl => ?_
    cases hl
    exact fun hu => h.notPending _ _ hloop (List.mem_cons_of_mem _ hu)
  · have h' := h.removeNonWorkingSerialDevices world
    generalize m.removeNonWorkingSerialDevices world = r at h' ⊢
    obtain ⟨m', evs⟩ := r
    dsimp only
    split
    · exact h'.stop.setLoop (by simp)
    · exact h'.setLoop (by simp)
  · exact h

/-- **One action keeps a source unopened**, unless it opens, closes, reads or resets
that source, or closes every source. -/
theorem Unopened.act (h : m.Unopened u) {a : MgrAction} (ha : a.touches u = false)
    {m' : Manager} {evs : List MgrEvent} (hact : m.act world a = .ok (m', evs)) : m'.Unopened u := by
  have hne : ∀ {v : Nat}, (v == u) = false → v ≠ u := fun hv hvu => by simp [hvu] at hv
  cases a with
  | openSource v failIfNotOk answer =>
    simp only [Manager.act] at hact
    split at hact
    · cases hact
    · cases hact
      exact h.update _ fun hvu => absurd hvu (hne ha)
  | close v => cases hact; exact h.closeSource world (hne ha)
  | receive v reads =>
    simp only [Manager.act] at hact
    split at hact <;> cases hact
    · exact h
    · exact h.update _ fun hvu => absurd hvu (hne ha)
  | onDisappear v => cases hact; exact h.update _ fun hvu => hvu ▸ ⟨h.noFd, h.notReset⟩
  | resetInitiated v => cases hact; exact h.update _ fun hvu => absurd hvu (hne ha)
  | resetCompleted v => cases hact; exact h.update _ fun hvu => hvu ▸ ⟨h.noFd, rfl⟩
  | createSerialDeviceTTY | createSerialDeviceCommand | createSerialDeviceFile
  | createSerialDeviceSimulator => cases hact; exact h.add _
  | expectDevicesToWork => cases hact; exact h.frame rfl rfl rfl
  | stop => cases hact; exact h.stop
  | closeAllDoNotRemove => simp at ha
  | removeNonWorking device => cases hact; exact h.removeNonWorking world device
  | removeNonWorkingSerialDevices =>
    obtain ⟨rfl, rfl⟩ := Prod.ext_iff.mp (Except.ok.inj hact)
    exact h.removeNonWorkingSerialDevices world
  | eventLoop =>
    obtain ⟨rfl, rfl⟩ := Prod.ext_iff.mp (Except.ok.inj hact)
    exact h.eventLoopStep world

/-- Every run that leaves the source alone keeps it unopened. -/
theorem Unopened.run : ∀ {m : Manager} (acts : List MgrAction), m.Unopened u →
    (∀ a ∈ acts, a.touches u = false) → (m.run world acts).1.Unopened u
  | _, [], h, _ => h
  | m, a :: as, h, hacts => by
    rcases run_cons world m a as with ⟨msg, -, hr⟩ | ⟨m', evs, hact, hr⟩ <;> rw [hr]
    · exact h
    · exact Unopened.run as ((h.act world (hacts a (List.mem_cons_self _ _)) hact).frame rfl rfl rfl)
        fun b hb => hacts b (List.mem_cons_of_mem _ hb)

end Unopened

end Manager

/-! ### A failed detection -/

/-- `open(false)` on a TTY without a descriptor, when the node is missing or another
process holds its lock: the answer is not `AccessOK`, and the source still has no
descriptor. -/
theorem SerialDeviceTTY.open_missing_or_locked (s : Source) (present : Bool) (calls : TTYCalls)
    (fds : List Nat) (hfd : s.fd = -2)
    (hfail : present = false ∨ (openSerialTTY calls s.baudRate fds).2 = -2) :
    ∃ s' fds' rc, SerialDeviceTTY.open s false present calls fds = .ok (s', fds', rc) ∧
      s'.fd = -2 ∧ s'.resetting = s.resetting ∧ rc ≠ .accessOK := by
  unfold SerialDeviceTTY.open
  cases present
  · exact ⟨s, fds, .notThere, rfl, hfd, rfl, by decide⟩
  · generalize openSerialTTY calls s.baudRate fds = o at hfail ⊢
    obtain ⟨fds', fd⟩ := o
    obtain rfl : fd = -2 := hfail.resolve_left (by simp)
    exact ⟨{ s with fd := -2 }, fds', .notSameGroup, by simp, rfl, rfl, by decide⟩

/-- When the node is missing or locked, `detectMBUS` answers `NotThere` and leaves the
source it created unopened. -/
theorem detectMBUS_notThere (m : Manager) (file bps : String) (answer : OpenAnswer)
    (hfail : answer.present = false ∨ (openSerialTTY answer.calls (atoi bps.toList) m.fds).2 = -2)
    (hpending : ∀ pending found, m.loop = .closing pending found → m.sources.length ∉ pending) :
    ∃ m', detectMBUS world m file bps answer = .ok (m', [], .notThere) ∧
      m'.Unopened m.sources.length := by
  obtain ⟨tty, htty⟩ : ∃ tty : Source,
      tty = ⟨.tty, file, atoi bps.toList, -2, 0, false, false, false, false⟩ := ⟨_, rfl⟩
  obtain ⟨s, fds, rc, hopen, hfd, hres, hrc⟩ := SerialDeviceTTY.open_missing_or_locked tty
    answer.present answer.calls m.fds (by rw [htty]) (by rw [htty]; exact hfail)
  have hopen' : tty.open false answer m.fds = .ok (s, fds, rc) := by subst htty; exact hopen
  have hsrc : (m.add tty).source m.sources.length = tty := by rw [Manager.source_add, if_pos rfl]
  have hadd : (m.add tty).Unopened m.sources.length :=
    ⟨List.mem_append_right _ (List.mem_singleton_self _), by simp [Manager.add],
      by rw [hsrc, htty], by rw [hsrc, htty], hpending⟩
  refine ⟨(m.add tty).update m.sources.length s fds, ?_,
    hadd.update fds fun _ => ⟨hfd, hres.trans (by rw [htty])⟩⟩
  simp only [detectMBUS, ← htty, hsrc]
  rw [show (m.add tty).fds = m.fds from rfl, hopen']
  exact if_pos hrc

/-- **A failed detection leaves its source listed for good.**  When the device node
is missing, or another process holds its lock, `detectMBUS` returns `NotThere`, and
the TTY source it created stays listed, and not opened, over every run of the
manager that neither opens, closes, reads or resets it nor closes every source:
no sweep of the event loop, no `removeNonWorkingSerialDevices` and no
`removeNonWorking` removes it, so the list of sources never empties. -/
theorem detectMBUS_leaves_source (m : Manager) (file bps : String) (answer : OpenAnswer)
    (hfail : answer.present = false ∨ (openSerialTTY answer.calls (atoi bps.toList) m.fds).2 = -2)
    (hpending : ∀ pending found, m.loop = .closing pending found → m.sources.length ∉ pending) :
    ∃ m', detectMBUS world m file bps answer = .ok (m', [], .notThere) ∧
      ∀ acts : List MgrAction, (∀ a ∈ acts, a.touches m.sources.length = false) →
        m.sources.length ∈ (m'.run world acts).1.serialDevices ∧
          ((m'.run world acts).1.source m.sources.length).opened = false := by
  obtain ⟨m', hdet, hu⟩ := detectMBUS_notThere world m file bps answer hfail hpending
  refine ⟨m', hdet, fun acts hacts => ?_⟩
  have h := hu.run world acts hacts
  exact ⟨h.listed, by simp [Source.opened, h.noFd, h.notReset]⟩

/-- Another process holds `/dev/ttyUSB0`'s lock: the detection fails, and the source
stays listed. -/
theorem detectMBUS_leaves_source_locked :
    let answer : OpenAnswer := ⟨true, ⟨true, true, false, true, true, true⟩, false, false, 0⟩
    (answer.present = false ∨
        (openSerialTTY answer.calls (atoi "2400".toList) [0, 1, 2]).2 = -2) ∧
      (∀ pending found, (Manager.init [0, 1, 2]).loop = .closing pending found →
        (Manager.init [0, 1, 2]).sources.length ∉ pending) ∧
      ∃ m', detectMBUS (fun _ _ _ => ⟨true, true, 0, true⟩) (Manager.init [0, 1, 2])
          "/dev/ttyUSB0" "2400" answer = .ok (m', [], .notThere) ∧
        ∀ acts : List MgrAction, (∀ a ∈ acts, a.touches (Manager.init [0, 1, 2]).sources.length = false) →
          (Manager.init [0, 1, 2]).sources.length ∈
              (m'.run (fun _ _ _ => ⟨true, true, 0, true⟩) acts).1.serialDevices ∧
            ((m'.run (fun _ _ _ => ⟨true, true, 0, true⟩) acts).1.source
              (Manager.init [0, 1, 2]).sources.length).opened = false := by
  intro answer
  have hlock : (openSerialTTY answer.calls (atoi "2400".toList) [0, 1, 2]).2 = -2 := by decide
  have hpending : ∀ pending found, (Manager.init [0, 1, 2]).loop = .closing pending found →
      (Manager.init [0, 1, 2]).sources.length ∉ pending := fun _ _ h => by cases h
  exact ⟨.inr hlock, hpending, detectMBUS_leaves_source _ _ _ _ _ (.inr hlock) hpending⟩

end Wmbusmeters
