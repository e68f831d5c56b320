import Wmbusmeters.Manager

/-
Which source holds which descriptor.

Each source keeps the descriptor it opened in `fd_`.  `open()` of a TTY, a command
or a file takes the lowest descriptor free in the process's table, and `close()`
gives back only the one its own source holds.  So over every run of the model from
the constructor, whatever the system answers and however the threads' calls
interleave, every descriptor a source holds is open in the table and no two sources
hold the same one: what one source reads, sends or closes is never another's.

A run of the model is one in which no two calls on one source overlap.  `close()`
takes no lock, and two of them on one source side by side both close the number
`fd_` holds: the second can release the descriptor another source was handed in
between (`ConcurrentClose.lean`).

`stdin` is the exception.  `SerialDeviceFile::open` on `"stdin"` sets `fd_ = 0`
without opening anything, so two such sources hold descriptor 0 together, and once
one of them has closed it the next TTY opened is handed 0 as well.  The result is
stated for runs that create no source on `stdin`.

Not said here: which descriptors stay open with no source holding them.  A TTY
whose lock was refused leaves one (`openSerialTTY_leaks_descriptor`), and so do a
source removed without being closed and a source opened again over its own.
-/

namespace Wmbusmeters

variable (world : Nat → Nat → ProbeSite → Probe)

/-- Whether the action creates a file source on `stdin`. -/
@[simp] def MgrAction.createsStdin : MgrAction → Bool
  | .createSerialDeviceFile file => file == "stdin"
  | _ => false

/-- The source is not a file source on `stdin`. -/
def Source.NotStdin (s : Source) : Prop := s.kind = .file → s.device ≠ "stdin"

/-- **What `open()` does to the descriptors**, on any source but `stdin`: it keeps the
source's descriptor and the table, or it keeps every descriptor of the table and
leaves the source with none, or with one it has just opened. -/
theorem Source.open_fresh {s s' : Source} {failIfNotOk : Bool} {a : OpenAnswer}
    {fds fds' : List Nat} {r : AccessCheck} (hs : s.NotStdin)
    (h : s.open failIfNotOk a fds = .ok (s', fds', r)) :
    (s'.fd = s.fd ∧ fds' = fds) ∨
      ((∀ d ∈ fds, d ∈ fds') ∧ ∀ d : Nat, s'.fd = d → d ∈ fds' ∧ d ∉ fds) := by
  -- a descriptor just taken from the table's free ones
  have fresh : ∀ e : Nat, e ∉ fds → ∀ d : Nat, (e : Int) = d → d ∈ e :: fds ∧ d ∉ fds :=
    fun e he d hd => by
      obtain rfl : e = d := by omega
      exact ⟨List.mem_cons_self _ _, he⟩
  have none : ∀ fds' : List Nat, (∀ d ∈ fds, d ∈ fds') → ∀ d : Nat, (-1 : Int) = d → d ∈ fds' ∧ d ∉ fds :=
    fun _ _ d hd => by omega
  cases hk : s.kind <;> simp only [Source.open, hk] at h
  · rcases SerialDeviceTTY.open_ok h with ⟨rfl, rfl⟩ | ⟨rfl, rfl⟩
    · exact .inl ⟨rfl, rfl⟩
    rcases openSerialTTY_cases a.calls s.baudRate fds with ho | ⟨d₀, hd₀, ho⟩ <;> rw [ho] <;>
      dsimp only
    · exact .inr ⟨fun d hd => hd, none fds fun d hd => hd⟩
    · refine .inr ⟨fun d hd => List.mem_cons_of_mem _ hd, fun d hd => ?_⟩
      split_ifs at hd
      exact fresh d₀ hd₀ d hd
  · unfold SerialDeviceCommand.open at h
    split_ifs at h <;> cases h <;>
      exact .inr ⟨fun d hd => List.mem_cons_of_mem _ hd, fresh _ (lowestFree_not_mem fds)⟩
  · unfold SerialDeviceFile.open at h
    rw [if_neg (hs hk)] at h
    cases hp : a.present
    · rw [if_pos (by simp [hp])] at h
      cases h
      exact .inl ⟨rfl, rfl⟩
    rw [if_neg (by simp [hp])] at h
    have hso : sysOpen fds a.opens = (fds, -1) ∨
        sysOpen fds a.opens = (lowestFree fds :: fds, (lowestFree fds : Int)) := by
      unfold sysOpen
      split <;> simp
    rcases hso with ho | ho <;> rw [ho] at h <;> dsimp only at h
    · rw [if_pos rfl] at h
      split_ifs at h
      cases h
      exact .inr ⟨fun d hd => hd, none fds fun d hd => hd⟩
    · rw [if_neg (by omega)] at h
      cases h
      exact .inr ⟨fun d hd => List.mem_cons_of_mem _ hd, fresh _ (lowestFree_not_mem fds)⟩
  · cases h
    exact .inl ⟨rfl, rfl⟩

namespace Manager

/-- **Every descriptor a source holds is its own**: it is open in the table, and no
other source holds it.  No source reads `stdin`. -/
structure OwnsFds (m : Manager) : Prop where
  /-- A descriptor a source holds is open in the table. -/
  held : ∀ v (d : Nat), (m.source v).fd = d → d ∈ m.fds
  /-- No two sources hold the same descriptor. -/
  unshared : ∀ v w (d : Nat), (m.source v).fd = d → (m.source w).fd = d → v = w
  /-- No source is a file on `stdin`, whose `open` takes descriptor 0 unasked. -/
  noStdin : ∀ v, (m.source v).NotStdin

/-- A source that holds a descriptor has been created. -/
theorem lt_of_fd_eq {m : Manager} {v : Nat} {d : Nat} (h : (m.source v).fd = d) :
    v < m.sources.length := by
  by_contra hv
  rw [source_of_le (Nat.le_of_not_lt hv)] at h
  simp at h

theorem ownsFds_init (fds : List Nat) : (Manager.init fds).OwnsFds := by
  have hsrc : ∀ v, (Manager.init fds).source v = ⟨.simulator, "", 0, -2, 0, false, false, false, false⟩ :=
    fun v => source_of_le (Nat.zero_le v)
  refine ⟨fun v d h => ?_, fun v w d h _ => ?_, fun v h => ?_⟩ <;> simp [hsrc] at h

section OwnsFds

variable {m : Manager}

/-- Changing the record but not the sources or the table. -/
theorem OwnsFds.frame (h : m.OwnsFds) {m' : Manager} (hs : m'.sources = m.sources)
    (hf : m'.fds = m.fds) : m'.OwnsFds := by
  have hsrc : ∀ v, m'.source v = m.source v := fun v => by simp only [source, hs]
  exact ⟨fun v d hv => hf ▸ h.held v d (hsrc v ▸ hv),
    fun v w d hv hw => h.unshared v w d (hsrc v ▸ hv) (hsrc w ▸ hw), fun v => hsrc v ▸ h.noStdin v⟩

/-- **Replacing one source.**  The others' descriptors stay open, and the new one's,
if any, is open and held by no other source. -/
theorem OwnsFds.update (h : m.OwnsFds) {u : Nat} {s : Source} {fds : List Nat}
    (hothers : ∀ v (d : Nat), v ≠ u → (m.source v).fd = d → d ∈ fds)
    (hnew : ∀ d : Nat, s.fd = d → d ∈ fds ∧ ∀ v, v ≠ u → (m.source v).fd ≠ d)
    (hs : s.NotStdin) : (m.update u s fds).OwnsFds := by
  have hsrc := source_update m u
  -- a source beyond the list holds nothing, so `u` there is no source at all
  have hold : ∀ v (d : Nat), ¬(u = v ∧ u < m.sources.length) → (m.source v).fd = d → v ≠ u :=
    fun v d hv hd hvu => hv ⟨hvu.symm, hvu ▸ lt_of_fd_eq hd⟩
  refine ⟨fun v d hv => ?_, fun v w d hv hw => ?_, fun v => ?_⟩
  · rw [hsrc] at hv
    split_ifs at hv with hvu
    · exact (hnew d hv).1
    · exact hothers v d (hold v d hvu hv) hv
  · rw [hsrc] at hv hw
    split_ifs at hv hw with hvu hwu hwu
    · exact hvu.1.symm.trans hwu.1
    · exact absurd hw ((hnew d hv).2 w (hold w d hwu hw))
    · exact absurd hv ((hnew d hw).2 v (hold v d hvu hv))
    · exact h.unshared v w d hv hw
  · rw [hsrc]
    split_ifs
    exacts [hs, h.noStdin v]

/-- Putting a source back as it was, with the table as it was. -/
theorem OwnsFds.update_self (h : m.OwnsFds) (u : Nat) {s : Source} (hfd : s.fd = (m.source u).fd)
    (hk : s.kind = (m.source u).kind) (hdev : s.device = (m.source u).device) :
    (m.update u s m.fds).OwnsFds :=
  h.update (fun v d _ hv => h.held v d hv)
    (fun d hd => ⟨h.held u d (hfd ▸ hd), fun v hvu hv => hvu (h.unshared v u d hv (hfd ▸ hd))⟩)
    (fun hkf => hdev ▸ h.noStdin u (hk ▸ hkf))

/-- `close()` gives back the source's own descriptor, which no other source holds. -/
theorem OwnsFds.close (h : m.OwnsFds) (u : Nat) (p : Probe) :
    (m.update u ((m.source u).close m.fds p).1 ((m.source u).close m.fds p).2.1).OwnsFds := by
  obtain ⟨-, hk, hdev, -⟩ := (m.source u).close_fd m.fds p
  rcases (m.source u).close_cases m.fds p with ⟨hc, -⟩ | ⟨pid, fire, -, hc⟩
  · rw [hc]
    exact h.update_self u rfl rfl rfl
  · rw [hc] at hk hdev ⊢
    refine h.update (fun v d hvu hv => ?_) (fun d hd => by simp at hd)
      (fun hkf => hdev ▸ h.noStdin u (hk ▸ hkf))
    exact mem_sysClose.2 ⟨h.held v d hv, fun hu => hvu (h.unshared v u d hv hu.symm)⟩

theorem OwnsFds.closeSource (h : m.OwnsFds) (u : Nat) : (m.closeSource world u).1.OwnsFds := by
  rw [closeSource_eq]
  exact h.close u _

theorem OwnsFds.closeEach : ∀ {m : Manager} (us : List Nat), m.OwnsFds → (m.closeEach world us).1.OwnsFds
  | _, [], h => h
  | _, u :: us, h => OwnsFds.closeEach us (h.closeSource world u)

theorem OwnsFds.add (h : m.OwnsFds) {s : Source} (hfd : s.fd = -2) (hs : s.NotStdin) :
    (m.add s).OwnsFds := by
  have hsrc := source_add m s
  refine ⟨fun v d hv => ?_, fun v w d hv hw => ?_, fun v => ?_⟩
  · rw [hsrc] at hv
    split_ifs at hv
    · rw [hfd] at hv; omega
    · exact h.held v d hv
  · rw [hsrc] at hv hw
    split_ifs at hv hw
    all_goals first | (rw [hfd] at hv; omega) | (rw [hfd] at hw; omega) | exact h.unshared v w d hv hw
  · rw [hsrc]
    split_ifs
    exacts [hs, h.noStdin v]

/-- The event loop closes only with `close()`, and otherwise moves its own position or
the list. -/
theorem OwnsFds.eventLoopStep (h : m.OwnsFds) : (m.eventLoopStep world).1.OwnsFds := by
  unfold Manager.eventLoopStep
  split
  · split_ifs <;> exact h.frame rfl rfl
  · split_ifs <;> exact h.frame rfl rfl
  · exact h.frame rfl rfl
  · exact (h.closeSource world _).frame rfl rfl
  · have h' : (m.removeNonWorkingSerialDevices world).1.OwnsFds := by
      rw [removeNonWorkingSerialDevices_eq]
      exact h.frame rfl rfl
    generalize m.removeNonWorkingSerialDevices world = r at h' ⊢
    obtain ⟨m', evs⟩ := r
    dsimp only
    split <;> exact h'.frame rfl rfl
  · exact h

/-- **One action keeps every descriptor with its own source**, unless it creates a
source on `stdin`. -/
theorem OwnsFds.act (h : m.OwnsFds) {a : MgrAction} (ha : a.createsStdin = false)
    {m' : Manager} {evs : List MgrEvent} (hact : m.act world a = .ok (m', evs)) : m'.OwnsFds := by
  cases a with
  | openSource u failIfNotOk answer =>
    simp only [Manager.act] at hact
    split at hact
    · cases hact
    · rename_i s fds r hopen
      cases hact
      obtain ⟨hk, hdev, -, -⟩ := Source.open_keeps hopen
      rcases Source.open_fresh (h.noStdin u) hopen with ⟨hfd, rfl⟩ | ⟨hsub, hfresh⟩
      · exact h.update_self u hfd hk hdev
      · exact h.update (fun v d _ hv => hsub d (h.held v d hv))
          (fun d hd => ⟨(hfresh d hd).1, fun v _ hv => (hfresh d hd).2 (h.held v d hv)⟩)
          (fun hkf => hdev ▸ h.noStdin u (hk ▸ hkf))
  | close u => cases hact; exact h.closeSource world u
  | receive u reads =>
    simp only [Manager.act] at hact
    split at hact
    · cases hact; exact h
    · rename_i out hout
      cases hact
      obtain ⟨_, _, -, -, -, hclose⟩ := receive_spec hout
      split_ifs at hclose <;> simp only [Prod.ext_iff] at hclose <;> rw [hclose.1, hclose.2.1]
      · exact h.close u _
      · exact h.update_self u rfl rfl rfl
  | onDisappear u | resetInitiated u | resetCompleted u => cases hact; exact h.update_self u rfl rfl rfl
  | createSerialDeviceTTY | createSerialDeviceCommand | createSerialDeviceSimulator =>
    cases hact; exact h.add rfl (by simp [Source.NotStdin])
  | createSerialDeviceFile file =>
    cases hact
    exact h.add rfl fun _ hf => by simp only at hf; simp [hf] at ha
  | expectDevicesToWork | stop | removeNonWorking => cases hact; exact h.frame rfl rfl
  | closeAllDoNotRemove =>
    obtain ⟨rfl, rfl⟩ := Prod.ext_iff.mp (Except.ok.inj hact)
    exact h.closeEach world _
  | removeNonWorkingSerialDevices =>
    obtain ⟨rfl, rfl⟩ := Prod.ext_iff.mp (Except.ok.inj hact)
    rw [removeNonWorkingSerialDevices_eq]
    exact h.frame rfl rfl
  | eventLoop =>
    obtain ⟨rfl, rfl⟩ := Prod.ext_iff.mp (Except.ok.inj hact)
    exact h.eventLoopStep world

/-- Every run that creates no source on `stdin` keeps every descriptor with its own
source. -/
theorem OwnsFds.run : ∀ {m : Manager} (acts : List MgrAction), m.OwnsFds →
    (∀ a ∈ acts, a.createsStdin = false) → (m.run world acts).1.OwnsFds
  | _, [], h, _ => h
  | m, a :: as, h, hacts => by
    rcases run_cons world m a as with ⟨msg, -, hr⟩ | ⟨m', evs, hact, hr⟩ <;> rw [hr]
    · exact h
    · exact OwnsFds.run as ((h.act world (hacts a (List.mem_cons_self _ _)) hact).frame rfl rfl)
        fun b hb => hacts b (List.mem_cons_of_mem _ hb)

end OwnsFds

/-- **No two sources share a descriptor.**  Over every run of the model from the
constructor that creates no source on `stdin`, whatever the system answers and
however the threads' calls interleave, no two calls on one source overlapping: every
descriptor a source holds is open in the process's table, and no other source holds
it. -/
theorem run_fds_unshared (fds : List Nat) (acts : List MgrAction)
    (hacts : ∀ a ∈ acts, a.createsStdin = false) :
    (∀ v (d : Nat), (((Manager.init fds).run world acts).1.source v).fd = d →
        d ∈ ((Manager.init fds).run world acts).1.fds) ∧
      ∀ v w (d : Nat), (((Manager.init fds).run world acts).1.source v).fd = d →
        (((Manager.init fds).run world acts).1.source w).fd = d → v = w :=
  let h := (ownsFds_init fds).run world acts hacts
  ⟨h.held, h.unshared⟩

/-- A TTY and a file, both opened, then the TTY closed and a command opened: the
command is handed the TTY's old descriptor 3, and the file keeps 4. -/
theorem run_fds_unshared_reuse :
    let acts : List MgrAction := [.createSerialDeviceTTY "/dev/ttyUSB0" 9600,
      .createSerialDeviceFile "meter.bin",
      .openSource 0 true ⟨true, ⟨true, true, true, true, true, true⟩, true, true, 0⟩,
      .openSource 1 true ⟨true, ⟨true, true, true, true, true, true⟩, true, true, 0⟩, .close 0,
      .createSerialDeviceCommand "rtl_wmbus",
      .openSource 2 true ⟨true, ⟨true, true, true, true, true, true⟩, true, true, 77⟩]
    let r := (Manager.init [0, 1, 2]).run (fun _ _ _ => ⟨true, true, 0, true⟩) acts
    (∀ a ∈ acts, a.createsStdin = false) ∧ (r.1.source 2).fd = 3 ∧ (r.1.source 1).fd = 4 ∧
      (∀ v (d : Nat), (r.1.source v).fd = d → d ∈ r.1.fds) ∧
      ∀ v w (d : Nat), (r.1.source v).fd = d → (r.1.source w).fd = d → v = w := by
  intro acts r
  have hacts : ∀ a ∈ acts, a.createsStdin = false := by decide
  exact ⟨hacts, by decide, by decide, run_fds_unshared _ _ acts hacts⟩

/-- Two file sources on `stdin`, both opened, hold descriptor 0 together. -/
example :
    let m := ((Manager.init [0, 1, 2]).run (fun _ _ _ => ⟨true, true, 0, true⟩)
      [.createSerialDeviceFile "stdin", .createSerialDeviceFile "stdin",
        .openSource 0 true ⟨true, ⟨true, true, true, true, true, true⟩, true, true, 0⟩,
        .openSource 1 true ⟨true, ⟨true, true, true, true, true, true⟩, true, true, 0⟩]).1
    (m.source 0).fd = 0 ∧ (m.source 1).fd = 0 := by
  decide

end Manager

end Wmbusmeters
