import DcgmiDiag.RunDiagOnce

/-!
# Signals during a run

`RunDiagOnce` installs `handle_signal_during_diag` for `SIGHUP`, `SIGINT`, `SIGQUIT`
and `SIGTERM` once per process, saving the dispositions it replaces, and
`ExecuteDiagOnServer` arms `diag_stopDiagOnSignal` around its poll loop. The handler
sets `g_signalExit` when armed and does nothing otherwise; nothing ever clears
`g_signalExit`, and the saved dispositions are never run (`RUN_OLD_HANDLER` is not
expanded anywhere). Each signal keeps its own disposition until then, so a process
started under `nohup` ignores `SIGHUP` and is ended by `SIGINT`.

The model is a machine over the thread that runs `RunStartDiag`, the executor's
thread and the signal deliveries, each step atomic: an `Event` is the next statement
of the main thread (`enter`, `poll`), the executor's completion, or a delivery. Any
list of events is an interleaving; an event that is not enabled leaves the state
alone. Ghost counters record the signals delivered while armed and what each run
returned, and the laws are proved for the state after every list of events:

- `diag_stopDiagOnSignal` is set exactly at the steps of `ExecuteDiagOnServer`;
- `g_signalExit` is set exactly when some signal was delivered while armed;
- a run returns `DCGM_ST_NVVS_KILLED` after one abort request exactly when that had
  happened by its last check of `g_signalExit`, in this run or an earlier one, and
  otherwise returns the executor's result;
- a disarmed signal after the first installation changes nothing, and after it no
  interleaving ends the process or runs a disposition it had before; a signal ends the
  process exactly when it comes before the first installation, with its default action
  in place;
- inside the poll loop, once the executor has finished or `g_signalExit` is set, the
  run returns within four polls of the main thread, whatever comes between them.

`RunRecord.Lawful.refines` connects a returned run to `executeDiagOnServer`, whose
`killed` is the outcome of that last check.
-/

namespace DcgmiDiag

/-- A signal's disposition before `InstallSigHandlers`: `SIG_DFL`, `SIG_IGN`, or a
handler of the process. -/
inductive Disposition where
  | sigDfl
  | sigIgn
  | handler
  deriving DecidableEq, Repr

/-- The four signals `InstallSigHandlers` takes over. -/
inductive Signal where
  | sighup
  | sigint
  | sigquit
  | sigterm
  deriving DecidableEq, Repr

/-- The dispositions of the four signals before `InstallSigHandlers`, which it saves in
`diag_oldHupHandler`, `diag_oldIntHandler`, `diag_oldQuitHandler` and
`diag_oldTermHandler`. -/
structure OldHandlers where
  hup : Disposition
  int : Disposition
  quit : Disposition
  term : Disposition
  deriving DecidableEq, Repr

/-- The saved disposition of one signal. -/
def OldHandlers.of (old : OldHandlers) : Signal → Disposition
  | .sighup => old.hup
  | .sigint => old.int
  | .sigquit => old.quit
  | .sigterm => old.term

/-- The dispositions `nohup` leaves: `SIGHUP` ignored, the other three at their default
action. -/
def nohupHandlers : OldHandlers := ⟨.sigIgn, .sigDfl, .sigDfl, .sigDfl⟩

/-- Where the main thread is: between runs, inside `RunDiagOnce` before
`ExecuteDiagOnServer` arms, at one of the steps of the poll loop, or about to disarm
and return. -/
inductive Pc where
  | idle
  | arming
  | checkSignal
  | checkExited
  | sleeping
  | disarming
  deriving DecidableEq, Repr

/-- The steps between the arming and the disarming of `diag_stopDiagOnSignal`. -/
def Pc.armed : Pc → Bool
  | checkSignal | checkExited | sleeping | disarming => true
  | idle | arming => false

/-- What a run returned, with the ghost counts the laws compare it with: the signals
delivered while this run was armed, and those delivered while any run was armed
before this run's last check of `g_signalExit`. -/
structure RunRecord where
  result : DcgmReturn
  aborts : Nat
  engine : Option DcgmReturn
  runSignals : Nat
  signalsAtLastCheck : Nat
  deriving DecidableEq, Repr

/-- The state of the process: the statics of `Diag.cpp`, the locals of
`ExecuteDiagOnServer` and the executor's result (`none` while it runs), what the
dispositions did, and the ghost counters. -/
structure SignalState where
  pc : Pc
  original : OldHandlers
  installedSigHandlers : Bool
  stopDiagOnSignal : Bool
  signalExit : Bool
  executor : Option DcgmReturn
  result : DcgmReturn
  aborts : Nat
  terminated : Bool
  handlerRuns : Nat
  armedSignals : Nat
  runSignals : Nat
  lastCheck : Nat
  returns : List RunRecord
  deriving DecidableEq

/-- The process before its first run. -/
def initialState (original : OldHandlers) : SignalState where
  pc := .idle
  original := original
  installedSigHandlers := false
  stopDiagOnSignal := false
  signalExit := false
  executor := none
  result := dcgmStOk
  aborts := 0
  terminated := false
  handlerRuns := 0
  armedSignals := 0
  runSignals := 0
  lastCheck := 0
  returns := []

/-- One atomic step of the process. -/
inductive Event where
  | enter
  | poll
  | complete (result : DcgmReturn)
  | signal (signal : Signal)
  deriving DecidableEq, Repr

namespace SignalState

/-- The default action of each of the four signals ends the process; a handler of the
process runs. -/
def runDisposition (s : SignalState) : Disposition → SignalState
  | .sigDfl => { s with terminated := true }
  | .sigIgn => s
  | .handler => { s with handlerRuns := s.handlerRuns + 1 }

/-- `handle_signal_during_diag`, with the ghost counters. -/
def handleSignalDuringDiag (s : SignalState) : SignalState :=
  if s.stopDiagOnSignal then
    { s with signalExit := true, armedSignals := s.armedSignals + 1, runSignals := s.runSignals + 1 }
  else s

/-- A delivery: the signal's own disposition before `InstallSigHandlers`, the handler
after. -/
def deliverSignal (s : SignalState) (signal : Signal) : SignalState :=
  if s.installedSigHandlers then s.handleSignalDuringDiag else s.runDisposition (s.original.of signal)

/-- `RunDiagOnce` up to `ExecuteDiagOnServer`: `InstallSigHandlers`, which only sets
its flag after the first time. -/
def enter (s : SignalState) : SignalState :=
  if s.pc = .idle then { s with installedSigHandlers := true, pc := .arming } else s

/-- The run about to return: the record of what it returns. -/
def pending (s : SignalState) : RunRecord :=
  ⟨s.result, s.aborts, s.executor, s.runSignals, s.lastCheck⟩

/-- The next statement of `ExecuteDiagOnServer`. -/
def poll (s : SignalState) : SignalState :=
  match s.pc with
  | .idle => s
  | .arming =>
    { s with stopDiagOnSignal := true, executor := none, result := dcgmStOk, aborts := 0,
             runSignals := 0, lastCheck := 0, pc := .checkSignal }
  | .checkSignal =>
    if s.signalExit then
      { s with lastCheck := s.armedSignals, aborts := s.aborts + 1, result := dcgmStNvvsKilled,
               pc := .disarming }
    else { s with lastCheck := s.armedSignals, pc := .checkExited }
  | .checkExited =>
    match s.executor with
    | some result => { s with result := result, pc := .disarming }
    | none => { s with pc := .sleeping }
  | .sleeping => { s with pc := .checkSignal }
  | .disarming => { s with stopDiagOnSignal := false, pc := .idle, returns := s.returns ++ [s.pending] }

/-- The executor's thread finishes with `dcgmActionValidate_v2`'s result. -/
def complete (s : SignalState) (result : DcgmReturn) : SignalState :=
  if s.pc.armed ∧ s.executor = none then { s with executor := some result } else s

/-- One event; nothing happens in a process that has ended. -/
def step (s : SignalState) (event : Event) : SignalState :=
  if s.terminated then s
  else match event with
    | .enter => s.enter
    | .poll => s.poll
    | .complete result => s.complete result
    | .signal signal => s.deliverSignal signal

end SignalState

/-- The state after an interleaving. -/
def runEvents (s : SignalState) (events : List Event) : SignalState := events.foldl SignalState.step s

/-! ## The laws -/

/-- A returned run was killed after one abort request, with a signal delivered while
armed before its last check, or returned the executor's result after none. -/
def RunRecord.Lawful (r : RunRecord) : Prop :=
  (r.result = dcgmStNvvsKilled ∧ r.aborts = 1 ∧ 0 < r.signalsAtLastCheck) ∨
    (r.engine = some r.result ∧ r.aborts = 0 ∧ r.signalsAtLastCheck = 0)

/-- What the signal handling guarantees in a state. -/
structure SignalLaw (s : SignalState) : Prop where
  armedInside : s.stopDiagOnSignal = s.pc.armed
  exitIffArmedSignal : s.signalExit = true ↔ 0 < s.armedSignals
  lawfulReturns : ∀ r ∈ s.returns, r.Lawful
  disarmedSignal : ∀ signal, s.stopDiagOnSignal = false →
    (s.deliverSignal signal).signalExit = s.signalExit ∧
      (s.installedSigHandlers = true → s.deliverSignal signal = s)

/-- The invariant: the laws, and what the poll loop has established so far. -/
structure SignalInvariant (s : SignalState) : Prop where
  armedInside : s.stopDiagOnSignal = s.pc.armed
  exitRecorded : s.signalExit = decide (0 < s.armedSignals)
  lawfulReturns : ∀ r ∈ s.returns, r.Lawful
  noAbortBefore : s.pc.armed = true → s.pc ≠ .disarming → s.aborts = 0
  checkedClear : s.pc = .checkExited ∨ s.pc = .sleeping → s.lastCheck = 0
  pendingLawful : s.pc = .disarming → s.pending.Lawful

theorem signalInvariant_initialState (original : OldHandlers) :
    SignalInvariant (initialState original) where
  armedInside := rfl
  exitRecorded := rfl
  lawfulReturns := by simp [initialState]
  noAbortBefore := fun _ _ => rfl
  checkedClear := fun _ => rfl
  pendingLawful := by simp [initialState]

namespace SignalState

variable {s : SignalState}

theorem deliverSignal_disarmed (signal : Signal) (disarmed : s.stopDiagOnSignal = false) :
    (s.deliverSignal signal).signalExit = s.signalExit ∧
      (s.installedSigHandlers = true → s.deliverSignal signal = s) := by
  unfold deliverSignal handleSignalDuringDiag
  refine ⟨?_, fun installed => by simp [installed, disarmed]⟩
  split
  · simp [disarmed]
  · cases s.original.of signal <;> rfl

theorem signalInvariant_deliverSignal (inv : SignalInvariant s) (signal : Signal) :
    SignalInvariant (s.deliverSignal signal) := by
  unfold deliverSignal handleSignalDuringDiag
  by_cases installed : s.installedSigHandlers
  · by_cases armed : s.stopDiagOnSignal
    · simp only [installed, armed, if_true]
      exact ⟨by simpa [armed] using inv.armedInside, by simp, inv.lawfulReturns, inv.noAbortBefore,
        inv.checkedClear, inv.pendingLawful⟩
    · simpa [installed, armed] using inv
  · simp only [installed]
    cases s.original.of signal <;> exact ⟨inv.1, inv.2, inv.3, inv.4, inv.5, inv.6⟩

theorem signalInvariant_enter (inv : SignalInvariant s) : SignalInvariant s.enter := by
  unfold enter
  split
  · next idle =>
    exact ⟨by simpa [idle, Pc.armed] using inv.armedInside, inv.exitRecorded, inv.lawfulReturns,
      by simp [Pc.armed], by simp, by simp⟩
  · exact inv

theorem signalInvariant_complete (inv : SignalInvariant s) (result : DcgmReturn) :
    SignalInvariant (s.complete result) := by
  unfold complete
  split
  · next running =>
    refine ⟨inv.1, inv.2, inv.3, inv.4, inv.5, fun disarming => ?_⟩
    rcases inv.pendingLawful disarming with killed | ran
    · exact .inl killed
    · simp [pending, running.2] at ran
  · exact inv

theorem signalInvariant_poll (inv : SignalInvariant s) : SignalInvariant s.poll := by
  unfold poll
  split
  · exact inv
  · next arming =>
    exact ⟨by simp [Pc.armed], inv.exitRecorded, inv.lawfulReturns, fun _ _ => rfl, by simp, by simp⟩
  · next checking =>
    have noAbort := inv.noAbortBefore (by simp [checking, Pc.armed]) (by simp [checking])
    split
    · next exiting =>
      refine ⟨by simpa [checking, Pc.armed] using inv.armedInside, inv.exitRecorded, inv.lawfulReturns,
        by simp, by simp, fun _ => .inl ⟨rfl, by simp [pending, noAbort], ?_⟩⟩
      simpa [inv.exitRecorded] using exiting
    · next clear =>
      refine ⟨by simpa [checking, Pc.armed] using inv.armedInside, inv.exitRecorded, inv.lawfulReturns,
        fun _ _ => noAbort, fun _ => ?_, by simp⟩
      simpa [inv.exitRecorded] using clear
  · next exited =>
    have noAbort := inv.noAbortBefore (by simp [exited, Pc.armed]) (by simp [exited])
    have clear := inv.checkedClear (.inl exited)
    split
    · exact ⟨by simpa [exited, Pc.armed] using inv.armedInside, inv.exitRecorded, inv.lawfulReturns,
        by simp, by simp, fun _ => .inr ⟨by simpa [pending], noAbort, clear⟩⟩
    · exact ⟨by simpa [exited, Pc.armed] using inv.armedInside, inv.exitRecorded, inv.lawfulReturns,
        fun _ _ => noAbort, fun _ => clear, by simp⟩
  · next sleeping =>
    exact ⟨by simpa [sleeping, Pc.armed] using inv.armedInside, inv.exitRecorded, inv.lawfulReturns,
      fun _ _ => inv.noAbortBefore (by simp [sleeping, Pc.armed]) (by simp [sleeping]), by simp, by simp⟩
  · next disarming =>
    refine ⟨by simp [Pc.armed], inv.exitRecorded, fun r member => ?_, by simp [Pc.armed], by simp, by simp⟩
    rcases List.mem_append.mp member with old | last
    · exact inv.lawfulReturns r old
    · rw [List.mem_singleton.mp last]
      exact inv.pendingLawful disarming

theorem signalInvariant_step (inv : SignalInvariant s) (event : Event) : SignalInvariant (s.step event) := by
  unfold step
  split
  · exact inv
  · cases event with
    | enter => exact signalInvariant_enter inv
    | poll => exact signalInvariant_poll inv
    | complete result => exact signalInvariant_complete inv result
    | signal signal => exact signalInvariant_deliverSignal inv signal

end SignalState

theorem signalInvariant_runEvents (s : SignalState) (events : List Event) (inv : SignalInvariant s) :
    SignalInvariant (runEvents s events) := by
  induction events generalizing s with
  | nil => exact inv
  | cons event rest inductionHypothesis => exact inductionHypothesis _ (SignalState.signalInvariant_step inv event)

/-- For every interleaving of the main thread's steps, the executor's completion and
signal deliveries across consecutive runs: `diag_stopDiagOnSignal` is set exactly at
the steps of `ExecuteDiagOnServer`; `g_signalExit` is set exactly when some signal has
been delivered while armed; every returned run was killed after one abort request
with such a signal before its last check, or returned the executor's result after
none; and a signal delivered while disarmed leaves `g_signalExit` alone and, once the
handlers are installed, changes nothing at all. -/
theorem runEvents_signalLaw (original : OldHandlers) (events : List Event) :
    SignalLaw (runEvents (initialState original) events) :=
  have inv := signalInvariant_runEvents _ events (signalInvariant_initialState original)
  ⟨inv.armedInside, by simp [inv.exitRecorded], inv.lawfulReturns,
    SignalState.deliverSignal_disarmed⟩

/-- `SIGINT` at its default action, as `nohup` leaves it: before the first run it ends the
process, but between two runs, once the first run has installed the handlers, the
disarmed handler swallows it: the state after it is the state before it, and the
process goes on, where `RUN_OLD_HANDLER` would have raised it at its default action. -/
theorem disarmed_sigint_swallowed :
    (runEvents (initialState nohupHandlers) [.signal .sigint]).terminated = true ∧
      runEvents (initialState nohupHandlers)
          ([.enter, .poll, .poll, .complete dcgmStOk, .poll, .poll] ++ [.signal .sigint]) =
        runEvents (initialState nohupHandlers) [.enter, .poll, .poll, .complete dcgmStOk, .poll, .poll] ∧
      (runEvents (initialState nohupHandlers) [.enter, .poll, .poll, .complete dcgmStOk, .poll, .poll]).terminated =
        false := by
  decide

/-! ## Connection to `executeDiagOnServer` -/

/-- A returned run returns what `executeDiagOnServer` returns when `killed` is the
outcome of the run's last check of `g_signalExit` and the engine returns the
executor's result. -/
theorem RunRecord.Lawful.refines {r : RunRecord} (lawful : r.Lawful) (env : Environment)
    (drd : RunDiag) (diagResult : DiagResponse) (killed : env.killed = decide (0 < r.signalsAtLastCheck))
    (engine : env.killed = false → some (env.dcgmActionValidate drd remoteDiagExecutorResponse).1 = r.engine) :
    (executeDiagOnServer env drd diagResult).1 = r.result := by
  rcases lawful with ⟨result, -, signaled⟩ | ⟨ran, -, clear⟩
  · simp [executeDiagOnServer, killed, signaled, result]
  · have notKilled : env.killed = false := by simp [killed, clear]
    simpa [executeDiagOnServer, notKilled, ran] using engine notKilled

/-! ## After a signal while armed -/

/-- What holds once `g_signalExit` is set: it stays set, so the poll loop never gets past
its first check, and the run about to return is killed after one abort request. -/
structure SignalExited (s : SignalState) : Prop where
  exited : s.signalExit = true
  neverPastCheck : s.pc ≠ .checkExited ∧ s.pc ≠ .sleeping
  noAbortYet : s.pc = .checkSignal → s.aborts = 0
  pendingKilled : s.pc = .disarming → s.result = dcgmStNvvsKilled ∧ s.aborts = 1

/-- A run killed after one abort request. -/
def RunRecord.Killed (r : RunRecord) : Prop := r.result = dcgmStNvvsKilled ∧ r.aborts = 1

namespace SignalState

variable {s : SignalState}

/-- A step that leaves the flag, the program counter, the result and the aborts alone
keeps `SignalExited` and returns nothing. -/
theorem signalExited_of_same {s' : SignalState} (exited : SignalExited s) (flag : s'.signalExit = s.signalExit)
    (pc : s'.pc = s.pc) (result : s'.result = s.result) (aborts : s'.aborts = s.aborts)
    (returns : s'.returns = s.returns) :
    SignalExited s' ∧ ∃ later, s'.returns = s.returns ++ later ∧ ∀ r ∈ later, r.Killed :=
  ⟨⟨flag ▸ exited.exited, pc ▸ exited.neverPastCheck, pc ▸ aborts ▸ exited.noAbortYet,
    pc ▸ result ▸ aborts ▸ exited.pendingKilled⟩, [], by simp [returns], by simp⟩

theorem signalExited_deliverSignal (exited : SignalExited s) (signal : Signal) :
    SignalExited (s.deliverSignal signal) ∧
      ∃ later, (s.deliverSignal signal).returns = s.returns ++ later ∧ ∀ r ∈ later, r.Killed := by
  unfold deliverSignal handleSignalDuringDiag
  split
  · split
    · exact signalExited_of_same exited (by simp [exited.exited]) rfl rfl rfl rfl
    · exact signalExited_of_same exited rfl rfl rfl rfl rfl
  · cases s.original.of signal <;> exact signalExited_of_same exited rfl rfl rfl rfl rfl

theorem signalExited_poll (exited : SignalExited s) :
    SignalExited s.poll ∧ ∃ later, s.poll.returns = s.returns ++ later ∧ ∀ r ∈ later, r.Killed := by
  have neverPastCheck := exited.neverPastCheck
  unfold poll
  split
  · exact signalExited_of_same exited rfl rfl rfl rfl rfl
  · exact ⟨⟨exited.exited, by simp, fun _ => rfl, by simp⟩, [], by simp, by simp⟩
  · next checking =>
    simp only [exited.exited, if_true]
    exact ⟨⟨rfl, by simp, by simp, fun _ => ⟨rfl, by simp [exited.noAbortYet checking]⟩⟩, [], by simp, by simp⟩
  · next past => exact absurd past neverPastCheck.1
  · next past => exact absurd past neverPastCheck.2
  · next disarming =>
    exact ⟨⟨exited.exited, by simp, by simp, by simp⟩, [s.pending], rfl,
      by simpa [pending, RunRecord.Killed] using exited.pendingKilled disarming⟩

theorem signalExited_enter (exited : SignalExited s) :
    SignalExited s.enter ∧ ∃ later, s.enter.returns = s.returns ++ later ∧ ∀ r ∈ later, r.Killed := by
  unfold enter
  split
  · exact ⟨⟨exited.exited, by simp, by simp, by simp⟩, [], by simp, by simp⟩
  · exact signalExited_of_same exited rfl rfl rfl rfl rfl

theorem signalExited_complete (exited : SignalExited s) (result : DcgmReturn) :
    SignalExited (s.complete result) ∧
      ∃ later, (s.complete result).returns = s.returns ++ later ∧ ∀ r ∈ later, r.Killed := by
  unfold complete
  split <;> exact signalExited_of_same exited rfl rfl rfl rfl rfl

theorem signalExited_step (exited : SignalExited s) (event : Event) :
    SignalExited (s.step event) ∧ ∃ later, (s.step event).returns = s.returns ++ later ∧ ∀ r ∈ later, r.Killed := by
  unfold step
  split
  · exact signalExited_of_same exited rfl rfl rfl rfl rfl
  · cases event with
    | enter => exact signalExited_enter exited
    | poll => exact signalExited_poll exited
    | complete result => exact signalExited_complete exited result
    | signal signal => exact signalExited_deliverSignal exited signal

end SignalState

theorem signalExited_runEvents (s : SignalState) (events : List Event) (exited : SignalExited s) :
    SignalExited (runEvents s events) ∧
      ∃ later, (runEvents s events).returns = s.returns ++ later ∧ ∀ r ∈ later, r.Killed := by
  induction events generalizing s with
  | nil => exact ⟨exited, [], by simp [runEvents], by simp⟩
  | cons event rest inductionHypothesis =>
    obtain ⟨stepped, first, returned, killed⟩ := SignalState.signalExited_step exited event
    obtain ⟨ran, later, returnedLater, killedLater⟩ := inductionHypothesis _ stepped
    refine ⟨ran, first ++ later, ?_, fun r member => ?_⟩
    · simp only [runEvents, List.foldl_cons] at returnedLater ⊢
      rw [returnedLater, returned, List.append_assoc]
    · rcases List.mem_append.mp member with early | late
      · exact killed r early
      · exact killedLater r late

/-- Once some signal has been delivered while a run was armed, `g_signalExit` stays set
for good: from any point between runs, in every interleaving that follows, every run
that returns is killed after one abort request, whatever the executor does, and no
signal, disarmed or not, brings back a run that completes. -/
theorem runEvents_killed_after_armed_signal (original : OldHandlers) (before after : List Event)
    (signaled : 0 < (runEvents (initialState original) before).armedSignals)
    (betweenRuns : (runEvents (initialState original) before).pc = .idle) :
    ∃ later, (runEvents (initialState original) (before ++ after)).returns =
        (runEvents (initialState original) before).returns ++ later ∧
      ∀ r ∈ later, r.result = dcgmStNvvsKilled ∧ r.aborts = 1 := by
  have inv := signalInvariant_runEvents _ before (signalInvariant_initialState original)
  have exited : SignalExited (runEvents (initialState original) before) :=
    ⟨by simp [inv.exitRecorded, signaled], by simp [betweenRuns], by simp [betweenRuns], by simp [betweenRuns]⟩
  obtain ⟨-, later, returned, killed⟩ := signalExited_runEvents _ after exited
  exact ⟨later, by rw [runEvents, List.foldl_append]; exact returned, killed⟩

/-- Under `nohup`, a first run killed by a `SIGHUP`, which the handler took over from the
ignored disposition, then a run whose executor completes before its first check. -/
theorem killed_after_armed_signal_second_run :
    0 < (runEvents (initialState nohupHandlers) [.enter, .poll, .signal .sighup, .poll, .poll]).armedSignals ∧
      (runEvents (initialState nohupHandlers) [.enter, .poll, .signal .sighup, .poll, .poll]).pc = .idle ∧
      ∃ later, (runEvents (initialState nohupHandlers) ([.enter, .poll, .signal .sighup, .poll, .poll] ++
          [.enter, .poll, .complete dcgmStOk, .poll, .poll])).returns =
          (runEvents (initialState nohupHandlers) [.enter, .poll, .signal .sighup, .poll, .poll]).returns ++ later ∧
        ∀ r ∈ later, r.result = dcgmStNvvsKilled ∧ r.aborts = 1 :=
  ⟨by decide, by decide, runEvents_killed_after_armed_signal _ _ _ (by decide) (by decide)⟩

/-! ## After the first installation -/

/-- What a step keeps once the handlers are installed: they stay installed, and the process
is neither ended nor has one of its own dispositions run. -/
def SignalState.KeepsInstall (s s' : SignalState) : Prop :=
  s'.installedSigHandlers = true ∧ s'.terminated = s.terminated ∧ s'.handlerRuns = s.handlerRuns

namespace SignalState

variable {s : SignalState}

theorem keepsInstall_enter (installed : s.installedSigHandlers = true) : s.KeepsInstall s.enter := by
  unfold enter
  split <;> exact ⟨by simp [installed], rfl, rfl⟩

theorem keepsInstall_poll (installed : s.installedSigHandlers = true) : s.KeepsInstall s.poll := by
  unfold poll
  split <;> (try split) <;> exact ⟨installed, rfl, rfl⟩

theorem keepsInstall_complete (installed : s.installedSigHandlers = true) (result : DcgmReturn) :
    s.KeepsInstall (s.complete result) := by
  unfold complete
  split <;> exact ⟨installed, rfl, rfl⟩

theorem keepsInstall_deliverSignal (installed : s.installedSigHandlers = true) (signal : Signal) :
    s.KeepsInstall (s.deliverSignal signal) := by
  unfold deliverSignal handleSignalDuringDiag
  simp only [installed, if_true]
  split <;> exact ⟨by simp [installed], rfl, rfl⟩

theorem keepsInstall_step (installed : s.installedSigHandlers = true) (event : Event) :
    s.KeepsInstall (s.step event) := by
  unfold step
  split
  · exact ⟨installed, rfl, rfl⟩
  · cases event with
    | enter => exact keepsInstall_enter installed
    | poll => exact keepsInstall_poll installed
    | complete result => exact keepsInstall_complete installed result
    | signal signal => exact keepsInstall_deliverSignal installed signal

end SignalState

theorem keepsInstall_runEvents (s : SignalState) (events : List Event) (installed : s.installedSigHandlers = true) :
    s.KeepsInstall (runEvents s events) := by
  induction events generalizing s with
  | nil => exact ⟨installed, rfl, rfl⟩
  | cons event rest inductionHypothesis =>
    obtain ⟨stillInstalled, sameTerminated, sameRuns⟩ := SignalState.keepsInstall_step installed event
    obtain ⟨installedAfter, terminatedAfter, runsAfter⟩ := inductionHypothesis _ stillInstalled
    exact ⟨installedAfter, terminatedAfter.trans sameTerminated, runsAfter.trans sameRuns⟩

/-- What the first installation guarantees of a reachable state: the main thread is past
`InstallSigHandlers` only once the handlers are installed, and a process with the handlers
installed has not been ended. -/
structure InstallLaw (s : SignalState) : Prop where
  installedWhenBusy : s.pc ≠ .idle → s.installedSigHandlers = true
  runningOnceInstalled : s.installedSigHandlers = true → s.terminated = false

namespace SignalState

variable {s : SignalState}

theorem installLaw_step (law : InstallLaw s) (event : Event) : InstallLaw (s.step event) := by
  cases installed : s.installedSigHandlers
  · have idle : s.pc = .idle := by
      by_contra busy
      simpa [installed] using law.installedWhenBusy busy
    unfold step
    split
    · exact law
    · next running =>
      cases event with
      | enter => exact ⟨fun _ => by simp [enter, idle], fun _ => by simp [enter, idle, running]⟩
      | poll => simpa [poll, idle] using law
      | complete result => simpa [complete, idle, Pc.armed] using law
      | signal signal =>
        simp only [deliverSignal, installed]
        cases s.original.of signal <;>
          exact ⟨fun busy => by simp_all [runDisposition], by simp [runDisposition, installed]⟩
  · obtain ⟨stillInstalled, sameTerminated, -⟩ := keepsInstall_step installed event
    exact ⟨fun _ => stillInstalled, fun _ => sameTerminated.trans (law.runningOnceInstalled installed)⟩

end SignalState

theorem installLaw_runEvents (original : OldHandlers) (events : List Event) :
    InstallLaw (runEvents (initialState original) events) := by
  suffices ∀ s, InstallLaw s → InstallLaw (runEvents s events) from
    this _ ⟨fun busy => absurd rfl busy, fun installed => absurd installed (by simp [initialState])⟩
  induction events with
  | nil => exact fun _ law => law
  | cons event rest inductionHypothesis => exact fun s law => inductionHypothesis _ (SignalState.installLaw_step law event)

/-- Once a run has installed `handle_signal_during_diag`, no interleaving that follows
ends the process or runs the disposition it had before: `RUN_OLD_HANDLER` is never
expanded, so `SIGHUP`, `SIGINT`, `SIGQUIT` and `SIGTERM` reach only
`handle_signal_during_diag`, which does nothing while no run is armed. -/
theorem runEvents_never_ended_after_install (original : OldHandlers) (before after : List Event)
    (installed : (runEvents (initialState original) before).installedSigHandlers = true) :
    (runEvents (initialState original) (before ++ after)).terminated = false ∧
      (runEvents (initialState original) (before ++ after)).handlerRuns =
        (runEvents (initialState original) before).handlerRuns := by
  obtain ⟨-, sameTerminated, sameRuns⟩ := keepsInstall_runEvents _ after installed
  rw [runEvents, List.foldl_append]
  exact ⟨sameTerminated.trans ((installLaw_runEvents original before).runningOnceInstalled installed), sameRuns⟩

/-- A process whose own handler was installed before: after the first run, a signal
between runs and one during the second run reach only `handle_signal_during_diag`. -/
theorem never_ended_after_first_run :
    (runEvents (initialState ⟨.handler, .handler, .handler, .handler⟩) [.enter]).installedSigHandlers = true ∧
      (runEvents (initialState ⟨.handler, .handler, .handler, .handler⟩) ([.enter] ++
          [.poll, .poll, .complete dcgmStOk, .poll, .poll, .signal .sigterm,
            .enter, .poll, .signal .sigint, .poll, .poll])).terminated = false ∧
      (runEvents (initialState ⟨.handler, .handler, .handler, .handler⟩) ([.enter] ++
          [.poll, .poll, .complete dcgmStOk, .poll, .poll, .signal .sigterm,
            .enter, .poll, .signal .sigint, .poll, .poll])).handlerRuns =
        (runEvents (initialState ⟨.handler, .handler, .handler, .handler⟩) [.enter]).handlerRuns :=
  ⟨by decide, runEvents_never_ended_after_install _ _ _ (by decide)⟩

/-- A process that has ended stays as it is. -/
theorem runEvents_terminated (s : SignalState) (events : List Event) (ended : s.terminated = true) :
    runEvents s events = s := by
  induction events with
  | nil => rfl
  | cons event rest inductionHypothesis =>
    simpa [runEvents, SignalState.step, ended] using inductionHypothesis

/-- The process before the first `InstallSigHandlers`: between runs, with its own
dispositions and not ended. -/
structure SignalState.BeforeInstall (s : SignalState) : Prop where
  idle : s.pc = .idle
  notInstalled : s.installedSigHandlers = false
  running : s.terminated = false

/-- A signal before the first `enter` is one of the signals that arrive before it. -/
theorem signal_mem_takeWhile_cons (signal other : Signal) (rest : List Event) :
    Event.signal other ∈ (Event.signal signal :: rest).takeWhile (· ≠ .enter) ↔
      other = signal ∨ Event.signal other ∈ rest.takeWhile (· ≠ .enter) := by
  simp [List.takeWhile_cons]

/-- Before the first installation, a process ends exactly when a signal arrives before
the first `enter` while its own disposition is the default action. -/
theorem runEvents_terminated_before_install (s : SignalState) (events : List Event) (before : s.BeforeInstall) :
    (runEvents s events).terminated = true ↔
      ∃ signal, s.original.of signal = .sigDfl ∧ .signal signal ∈ events.takeWhile (· ≠ .enter) := by
  induction events generalizing s with
  | nil => simp [runEvents, before.running]
  | cons event rest inductionHypothesis =>
    have ran : runEvents s (event :: rest) = runEvents (s.step event) rest := rfl
    cases event with
    | enter =>
      obtain ⟨-, sameTerminated, -⟩ := keepsInstall_runEvents (s.step .enter) rest
        (by simp [SignalState.step, SignalState.enter, before.running, before.idle])
      rw [ran, sameTerminated]
      simp [SignalState.step, SignalState.enter, before.running, before.idle]
    | poll =>
      have same : s.step .poll = s := by simp [SignalState.step, SignalState.poll, before.running, before.idle]
      rw [ran, same, inductionHypothesis s before]
      simp
    | complete result =>
      have same : s.step (.complete result) = s := by
        simp [SignalState.step, SignalState.complete, before.running, before.idle, Pc.armed]
      rw [ran, same, inductionHypothesis s before]
      simp
    | signal signal =>
      have delivered : s.step (.signal signal) = s.runDisposition (s.original.of signal) := by
        simp [SignalState.step, SignalState.deliverSignal, before.running, before.notInstalled]
      have notDefault : s.original.of signal ≠ .sigDfl →
          ((∃ other, s.original.of other = .sigDfl ∧ .signal other ∈ rest.takeWhile (· ≠ .enter)) ↔
            ∃ other, s.original.of other = .sigDfl ∧
              .signal other ∈ (Event.signal signal :: rest).takeWhile (· ≠ .enter)) := fun other => by
        simp only [signal_mem_takeWhile_cons]
        constructor
        · rintro ⟨later, dfl, member⟩
          exact ⟨later, dfl, .inr member⟩
        · rintro ⟨later, dfl, rfl | member⟩
          · exact absurd dfl other
          · exact ⟨later, dfl, member⟩
      rw [ran, delivered]
      cases original : s.original.of signal with
      | sigDfl =>
        rw [runEvents_terminated _ _ (by simp [SignalState.runDisposition])]
        simp only [SignalState.runDisposition, true_iff]
        exact ⟨signal, original, by simp [signal_mem_takeWhile_cons]⟩
      | sigIgn =>
        rw [SignalState.runDisposition, inductionHypothesis s before]
        exact notDefault (by simp [original])
      | handler =>
        rw [SignalState.runDisposition, inductionHypothesis { s with handlerRuns := s.handlerRuns + 1 }
          ⟨before.idle, before.notInstalled, before.running⟩]
        exact notDefault (by simp [original])

/-- What ends the process: in every interleaving, a signal ends `dcgmi` exactly when its
own disposition before the first run is the default action and it arrives before the
first run reaches `InstallSigHandlers`; no later signal does. -/
theorem runEvents_ended_iff_signal_before_install (original : OldHandlers) (events : List Event) :
    (runEvents (initialState original) events).terminated = true ↔
      ∃ signal, original.of signal = .sigDfl ∧ .signal signal ∈ events.takeWhile (· ≠ .enter) :=
  runEvents_terminated_before_install _ events ⟨rfl, rfl, rfl⟩

/-! ## The poll loop returns -/

/-- A bound on the polls the main thread still needs to return from `ExecuteDiagOnServer`
once the executor has finished or `g_signalExit` is set. -/
def SignalState.pollsToReturn (s : SignalState) : Nat :=
  match s.pc with
  | .idle | .arming => 0
  | .disarming => 1
  | .checkSignal => if s.signalExit then 2 else 3
  | .checkExited => if s.executor.isSome then 2 else 4
  | .sleeping => if s.signalExit then 3 else 4

/-- A run in the poll loop that can return: its executor has finished or `g_signalExit`
is set. -/
def SignalState.Returning (s : SignalState) : Prop :=
  s.pc.armed = true ∧ (s.executor.isSome = true ∨ s.signalExit = true)

namespace SignalState

variable {s : SignalState}

theorem pollsToReturn_pos (armed : s.pc.armed = true) : 0 < s.pollsToReturn := by
  unfold pollsToReturn
  split <;> (try split) <;> simp_all [Pc.armed]

theorem pollsToReturn_le_four : s.pollsToReturn ≤ 4 := by
  unfold pollsToReturn
  split <;> (try split) <;> omega

/-- An event that keeps the program counter and the returns, and only sets the flag or
the executor's result, keeps a run returning and does not delay it. -/
theorem returning_of_growing {s' : SignalState} (returning : s.Returning) (pc : s'.pc = s.pc)
    (exit : s.signalExit = true → s'.signalExit = true)
    (executor : s.executor.isSome = true → s'.executor.isSome = true) (returns : s'.returns = s.returns) :
    s'.Returning ∧ s'.pollsToReturn ≤ s.pollsToReturn ∧ s'.returns = s.returns := by
  refine ⟨⟨pc ▸ returning.1, returning.2.imp executor exit⟩, ?_, returns⟩
  unfold pollsToReturn
  rw [pc]
  split <;> (try split) <;> (try split) <;> first | omega | simp_all

/-- A poll of a returning run returns it, or brings it one poll closer. -/
theorem poll_returning (returning : s.Returning) :
    (s.poll.pc = .idle ∧ s.poll.returns = s.returns ++ [s.pending]) ∨
      (s.poll.Returning ∧ s.poll.pollsToReturn + 1 = s.pollsToReturn ∧ s.poll.returns = s.returns) := by
  obtain ⟨armed, finished⟩ := returning
  unfold poll
  split
  · simp_all [Pc.armed]
  · simp_all [Pc.armed]
  · next checking =>
    split <;> simp_all [Returning, pollsToReturn, Pc.armed]
  · next exited =>
    split <;> simp_all [Returning, pollsToReturn, Pc.armed]
  · next sleeping => cases exit : s.signalExit <;> simp_all [Returning, pollsToReturn, Pc.armed]
  · exact .inl ⟨rfl, rfl⟩

theorem returning_enter (returning : s.Returning) :
    s.enter.Returning ∧ s.enter.pollsToReturn ≤ s.pollsToReturn ∧ s.enter.returns = s.returns := by
  have busy : s.pc ≠ .idle := fun idle => by simp [Returning, idle, Pc.armed] at returning
  simpa [enter, busy] using returning_of_growing returning rfl id id rfl

theorem returning_complete (returning : s.Returning) (result : DcgmReturn) :
    (s.complete result).Returning ∧ (s.complete result).pollsToReturn ≤ s.pollsToReturn ∧
      (s.complete result).returns = s.returns := by
  unfold complete
  split
  · exact returning_of_growing returning rfl id (fun _ => rfl) rfl
  · exact returning_of_growing returning rfl id id rfl

theorem returning_deliverSignal (returning : s.Returning) (installed : s.installedSigHandlers = true)
    (signal : Signal) :
    (s.deliverSignal signal).Returning ∧ (s.deliverSignal signal).pollsToReturn ≤ s.pollsToReturn ∧
      (s.deliverSignal signal).returns = s.returns := by
  unfold deliverSignal handleSignalDuringDiag
  simp only [installed, if_true]
  split
  · exact returning_of_growing returning rfl (fun _ => rfl) id rfl
  · exact returning_of_growing returning rfl id id rfl

/-- Any other event keeps a returning run returning and does not delay it. -/
theorem step_returning (returning : s.Returning) (installed : s.installedSigHandlers = true) (event : Event)
    (other : event ≠ .poll) :
    (s.step event).Returning ∧ (s.step event).pollsToReturn ≤ s.pollsToReturn ∧ (s.step event).returns = s.returns := by
  unfold step
  split
  · exact returning_of_growing returning rfl id id rfl
  · cases event with
    | enter => exact returning_enter returning
    | poll => exact absurd rfl other
    | complete result => exact returning_complete returning result
    | signal signal => exact returning_deliverSignal returning installed signal

theorem returns_poll : ∃ later, s.poll.returns = s.returns ++ later := by
  unfold poll
  split <;> (try split) <;> simp

theorem returns_enter : s.enter.returns = s.returns := by
  unfold enter
  split <;> rfl

theorem returns_complete (result : DcgmReturn) : (s.complete result).returns = s.returns := by
  unfold complete
  split <;> rfl

theorem returns_deliverSignal (signal : Signal) : (s.deliverSignal signal).returns = s.returns := by
  unfold deliverSignal handleSignalDuringDiag runDisposition
  split <;> split <;> rfl

theorem returns_step (event : Event) : ∃ later, (s.step event).returns = s.returns ++ later := by
  unfold step
  split
  · exact ⟨[], by simp⟩
  · cases event with
    | enter => exact ⟨[], by simp [returns_enter]⟩
    | poll => exact returns_poll
    | complete result => exact ⟨[], by simp [returns_complete]⟩
    | signal signal => exact ⟨[], by simp [returns_deliverSignal]⟩

end SignalState

theorem runEvents_returns_grow (s : SignalState) (events : List Event) :
    ∃ later, (runEvents s events).returns = s.returns ++ later := by
  induction events generalizing s with
  | nil => exact ⟨[], by simp [runEvents]⟩
  | cons event rest inductionHypothesis =>
    obtain ⟨first, stepped⟩ := SignalState.returns_step (s := s) event
    obtain ⟨later, ran⟩ := inductionHypothesis (s.step event)
    exact ⟨first ++ later, by simp only [runEvents, List.foldl_cons] at ran ⊢; rw [ran, stepped, List.append_assoc]⟩

/-- A returning run returns once the interleaving has as many polls as its bound. -/
theorem runEvents_returning (s : SignalState) (events : List Event) (returning : s.Returning)
    (installed : s.installedSigHandlers = true) (running : s.terminated = false)
    (enough : s.pollsToReturn ≤ events.count .poll) :
    ∃ r later, (runEvents s events).returns = s.returns ++ r :: later := by
  induction events generalizing s with
  | nil =>
    have positive := SignalState.pollsToReturn_pos returning.1
    simp at enough
    omega
  | cons event rest inductionHypothesis =>
    obtain ⟨stillInstalled, sameTerminated, -⟩ := SignalState.keepsInstall_step installed event
    have ran : runEvents s (event :: rest) = runEvents (s.step event) rest := rfl
    by_cases polled : event = .poll
    · subst polled
      have stepped : s.step .poll = s.poll := by simp [SignalState.step, running]
      rw [stepped] at stillInstalled sameTerminated
      rw [ran, stepped]
      rcases SignalState.poll_returning returning with ⟨-, returned⟩ | ⟨stillReturning, closer, same⟩
      · obtain ⟨later, grown⟩ := runEvents_returns_grow s.poll rest
        exact ⟨s.pending, later, by rw [grown, returned]; simp⟩
      · obtain ⟨r, later, grown⟩ := inductionHypothesis _ stillReturning stillInstalled (sameTerminated.trans running)
          (by simp at enough; omega)
        exact ⟨r, later, by rw [grown, same]⟩
    · obtain ⟨stillReturning, notLater, same⟩ := SignalState.step_returning returning installed event polled
      obtain ⟨r, later, grown⟩ := inductionHypothesis _ stillReturning stillInstalled (sameTerminated.trans running)
        (by simp [List.count_cons, polled] at enough; omega)
      exact ⟨r, later, by rw [ran, grown, same]⟩

/-- `ExecuteDiagOnServer`'s poll loop does not outlive its exit conditions: from any
reachable state inside the loop whose executor has finished or whose `g_signalExit` is
set, the run returns within four more polls of the main thread, whatever executor
completions and signal deliveries come between them. -/
theorem runEvents_returns_within_four_polls (original : OldHandlers) (before after : List Event)
    (polling : (runEvents (initialState original) before).pc.armed = true)
    (finished : (runEvents (initialState original) before).executor.isSome = true ∨
      (runEvents (initialState original) before).signalExit = true)
    (fourPolls : 4 ≤ after.count .poll) :
    ∃ r later, (runEvents (initialState original) (before ++ after)).returns =
      (runEvents (initialState original) before).returns ++ r :: later := by
  have law := installLaw_runEvents original before
  have installed := law.installedWhenBusy fun idle => by simp [idle, Pc.armed] at polling
  rw [runEvents, List.foldl_append]
  exact runEvents_returning _ after ⟨polling, finished⟩ installed (law.runningOnceInstalled installed)
    (SignalState.pollsToReturn_le_four.trans fourPolls)

/-- A run whose executor completes while it sleeps, with a signal after the completion:
four polls later it has returned. -/
theorem returns_after_completion_while_sleeping :
    (runEvents (initialState nohupHandlers) [.enter, .poll, .poll, .poll, .complete dcgmStOk]).pc.armed = true ∧
      ((runEvents (initialState nohupHandlers) [.enter, .poll, .poll, .poll, .complete dcgmStOk]).executor.isSome =
          true ∨
        (runEvents (initialState nohupHandlers) [.enter, .poll, .poll, .poll, .complete dcgmStOk]).signalExit = true) ∧
      4 ≤ [Event.signal .sigquit, .poll, .poll, .poll, .poll].count .poll ∧
      ∃ r later, (runEvents (initialState nohupHandlers) ([.enter, .poll, .poll, .poll, .complete dcgmStOk] ++
          [.signal .sigquit, .poll, .poll, .poll, .poll])).returns =
        (runEvents (initialState nohupHandlers) [.enter, .poll, .poll, .poll, .complete dcgmStOk]).returns ++
          r :: later :=
  ⟨by decide, by decide, by decide, runEvents_returns_within_four_polls _ _ _ (by decide) (by decide) (by decide)⟩

end DcgmiDiag
