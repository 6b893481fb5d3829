import DcgmiDiag.RunOutput

/-!
# Text and JSON runs of one request

`-j` changes what a diagnostic prints; this module is about what else it changes. The
outcome of `RunDiagOnce` reads the format once: in text mode a system error that comes
with `DCGM_ST_OK` is a failure, `DCGM_ST_NVVS_ERROR`, and the report is not rendered,
while in JSON mode the report is rendered and the response classified as usual, so the
system error reaches neither the outcome nor the document. That is the only place: the
engine's failures and the classification are the same in both formats, and so, when the
engine never reports a system error with `DCGM_ST_OK`, are the calls `RunStartDiag`
makes and the outcome it returns.
-/

namespace DcgmiDiag

/-- What `RunDiagOnce` returns, as a function of the request, the format and the engine:
the engine's failure, the system error of a text run, or the classification of the
response. -/
def onceOutcome (lib : Library) (env : Environment) (drd : RunDiag) (jsonOutput : Bool) : DcgmReturn :=
  let server := executeDiagOnServer env drd initializeDiagResponse
  if server.1 ≠ dcgmStOk then server.1
  else if !jsonOutput && !server.2.systemError.msg.isEmpty then dcgmStNvvsError
  else getFailureResult lib server.2

/-- A run returns `onceOutcome`: of the `Diag` object only the request and the format
decide the outcome, not what was printed or kept before. -/
theorem runDiagOnce_outcome (lib : Library) (env : Environment) (d : Diag) (run : DcgmReturn × Diag)
    (ran : runDiagOnce lib env d = some run) : run.1 = onceOutcome lib env d.drd d.jsonOutput := by
  dsimp only [runDiagOnce, Diag.reportResults, onceOutcome] at ran ⊢
  split at ran
  · next ok =>
    rw [if_neg (not_not.mpr ok)]
    split at ran
    · next systemError =>
      cases ran
      rw [if_pos systemError]
    · next quiet =>
      obtain ⟨gpuIndices, -, rendered⟩ := Option.bind_eq_some.mp ran
      cases rendered
      rw [if_neg quiet]
  · next failed =>
    cases ran
    rw [if_pos failed]

/-- The outcome of a text run and of a JSON run of the same request differ only when the
engine returned `DCGM_ST_OK` with a system error: then the text run returns
`DCGM_ST_NVVS_ERROR` and the JSON run the classification of the response. -/
theorem onceOutcome_text (lib : Library) (env : Environment) (drd : RunDiag) :
    onceOutcome lib env drd false =
      if (executeDiagOnServer env drd initializeDiagResponse).1 = dcgmStOk ∧
          (executeDiagOnServer env drd initializeDiagResponse).2.systemError.msg ≠ [] then dcgmStNvvsError
      else onceOutcome lib env drd true := by
  dsimp only [onceOutcome]
  by_cases ok : (executeDiagOnServer env drd initializeDiagResponse).1 = dcgmStOk
  · by_cases quiet : (executeDiagOnServer env drd initializeDiagResponse).2.systemError.msg = []
    · simp [ok, quiet]
    · simp [ok, quiet, List.isEmpty_iff]
  · simp [ok]

/-- A run of one request in text mode and in JSON mode, with a GPU filter inside the
per-GPU array, whatever the engine and the signals do: both return, and with the same
outcome, except when the engine returned `DCGM_ST_OK` with a system error, where the
text run returns `DCGM_ST_NVVS_ERROR` whatever the JSON run returns. -/
theorem runDiagOnce_format_outcomes (lib : Library) (env : Environment) (d : Diag)
    (inRange : ∀ gpuIndex ∈ parseGpuList d.drd.gpuList, gpuIndex < dcgmMaxNumDevices) :
    ∃ textRun jsonRun, runDiagOnce lib env { d with jsonOutput := false } = some textRun ∧
      runDiagOnce lib env { d with jsonOutput := true } = some jsonRun ∧
      textRun.1 = if (executeDiagOnServer env d.drd initializeDiagResponse).1 = dcgmStOk ∧
          (executeDiagOnServer env d.drd initializeDiagResponse).2.systemError.msg ≠ [] then dcgmStNvvsError
        else jsonRun.1 := by
  obtain ⟨textRun, textRan⟩ := runDiagOnce_exists lib env { d with jsonOutput := false } inRange
  obtain ⟨jsonRun, jsonRan⟩ := runDiagOnce_exists lib env { d with jsonOutput := true } inRange
  refine ⟨textRun, jsonRun, textRan, jsonRan, ?_⟩
  rw [runDiagOnce_outcome lib env _ _ textRan, runDiagOnce_outcome lib env _ _ jsonRan]
  exact onceOutcome_text lib env d.drd

/-- An engine that returns `DCGM_ST_OK` with a system error and an empty response. -/
def crashedEngine : Environment :=
  ⟨false, fun _ _ => (dcgmStOk, { DiagResponse.zero with systemError := { ErrorDetail.zero with
    msg := "nvvs crashed".toList } }), dcgmStOk⟩

/-- The outcomes at a system error: the text run fails, the JSON run passes. -/
theorem format_outcomes_crashed :
    (∀ gpuIndex ∈ parseGpuList oneJsonIteration.drd.gpuList, gpuIndex < dcgmMaxNumDevices) ∧
      ∃ textRun jsonRun, runDiagOnce ⟨fun _ => .monitor, fun _ => [], []⟩ crashedEngine
          { oneJsonIteration with jsonOutput := false } = some textRun ∧
        runDiagOnce ⟨fun _ => .monitor, fun _ => [], []⟩ crashedEngine
          { oneJsonIteration with jsonOutput := true } = some jsonRun ∧
        textRun.1 = if (executeDiagOnServer crashedEngine oneJsonIteration.drd initializeDiagResponse).1 = dcgmStOk ∧
            (executeDiagOnServer crashedEngine oneJsonIteration.drd initializeDiagResponse).2.systemError.msg ≠ []
          then dcgmStNvvsError else jsonRun.1 :=
  ⟨by decide, runDiagOnce_format_outcomes _ _ oneJsonIteration (by decide)⟩

/-- An engine that passes every request with the zero-filled response. -/
def passingEngine : Environment := ⟨false, fun _ diagResult => (dcgmStOk, diagResult), dcgmStOk⟩

/-- The engine `env`, with the system error of every response it returns replaced. -/
def Environment.withSystemError (env : Environment) (systemError : ErrorDetail) : Environment :=
  { env with dcgmActionValidate := fun drd diagResult =>
      ((env.dcgmActionValidate drd diagResult).1,
        { (env.dcgmActionValidate drd diagResult).2 with systemError := systemError }) }

/-- In JSON mode a system error that comes with `DCGM_ST_OK` is read nowhere: whatever it
says, the run selects the same GPUs, prints the same document and returns the same
outcome as without one. -/
theorem runDiagOnce_json_ignores_system_error (lib : Library) (env : Environment) (d : Diag)
    (systemError : ErrorDetail) (json : d.jsonOutput = true)
    (ok : (executeDiagOnServer env d.drd initializeDiagResponse).1 = dcgmStOk) :
    runDiagOnce lib (env.withSystemError systemError) d = runDiagOnce lib env d := by
  have completed : env.killed = false := by
    cases killed : env.killed
    · rfl
    · simp [executeDiagOnServer, killed, dcgmStNvvsKilled, dcgmStOk] at ok
  have server : executeDiagOnServer (env.withSystemError systemError) d.drd initializeDiagResponse =
      ((executeDiagOnServer env d.drd initializeDiagResponse).1,
        { (executeDiagOnServer env d.drd initializeDiagResponse).2 with systemError := systemError }) := by
    simp [executeDiagOnServer, Environment.withSystemError, completed]
  simp only [runDiagOnce, server, ok, if_true, Diag.reportResults, json, Bool.not_true, Bool.false_and,
    Bool.false_eq_true, if_false]
  rfl

/-- A crash message on a passing engine leaves a JSON run as it was. -/
theorem json_ignores_crash_message :
    oneJsonIteration.jsonOutput = true ∧
      (executeDiagOnServer passingEngine oneJsonIteration.drd initializeDiagResponse).1 = dcgmStOk ∧
      runDiagOnce ⟨fun _ => .monitor, fun _ => [], []⟩
          (passingEngine.withSystemError { ErrorDetail.zero with msg := "nvvs crashed".toList }) oneJsonIteration =
        runDiagOnce ⟨fun _ => .monitor, fun _ => [], []⟩ passingEngine oneJsonIteration :=
  ⟨rfl, by decide, runDiagOnce_json_ignores_system_error _ _ _ _ rfl (by decide)⟩

section Lockstep

variable (lib : Library) {gpuList : List Char} {runOnce : Nat → Diag → Option (DcgmReturn × Diag)}

/-- Two loops of `RunStartDiag` on the same request, whatever else their `Diag` objects
hold, make the same calls and reach the same outcome when the one-run function returns
on both with the same outcome and keeps the request. -/
theorem iterationLoop_lockstep
    (agree : ∀ i (d₁ d₂ : Diag), d₁.drd = d₂.drd → d₁.drd.gpuList = gpuList → ∃ ret d₁' d₂',
      runOnce i d₁ = some (ret, d₁') ∧ runOnce i d₂ = some (ret, d₂') ∧ d₁'.drd = d₁.drd ∧ d₂'.drd = d₂.drd)
    (remaining i : Nat) (state₁ state₂ : Iterated) (sameDrd : state₁.diag.drd = state₂.diag.drd)
    (filter : state₁.diag.drd.gpuList = gpuList) (sameCalls : state₁.calls = state₂.calls)
    (sameRet : state₁.overallRet = state₂.overallRet) :
    ∃ final₁ final₂, iterationLoop lib runOnce remaining i state₁ = some final₁ ∧
      iterationLoop lib runOnce remaining i state₂ = some final₂ ∧
      final₁.calls = final₂.calls ∧ final₁.overallRet = final₂.overallRet := by
  induction remaining generalizing i state₁ state₂ with
  | zero => exact ⟨state₁, state₂, rfl, rfl, sameCalls, sameRet⟩
  | succ remaining inductionHypothesis =>
    obtain ⟨ret, d₁', d₂', ran₁, ran₂, kept₁, kept₂⟩ := agree i (state₁.diag.startIteration i)
      (state₂.diag.startIteration i) (by simp [sameDrd]) (by simp [filter])
    simp only [Diag.startIteration_drd] at kept₁ kept₂
    by_cases passed : ret = dcgmStOk
    · obtain ⟨final₁, final₂, looped₁, looped₂, calls, overall⟩ := inductionHypothesis (i + 1)
        { state₁ with diag := d₁', output := state₁.output.update [.key .nvvsIterations, .index i] d₁'.jsonTmpValue,
                      calls := state₁.calls ++ [((state₁.diag.startIteration i).drd, ret)] }
        { state₂ with diag := d₂', output := state₂.output.update [.key .nvvsIterations, .index i] d₂'.jsonTmpValue,
                      calls := state₂.calls ++ [((state₂.diag.startIteration i).drd, ret)] }
        (by simp [kept₁, kept₂, sameDrd]) (by simp [kept₁, filter]) (by simp [sameCalls, sameDrd]) sameRet
      exact ⟨final₁, final₂, by simpa [iterationLoop, ran₁, passed] using looped₁,
        by simpa [iterationLoop, ran₂, passed] using looped₂, calls, overall⟩
    · refine ⟨_, _, by simp [iterationLoop, ran₁, passed]; rfl, by simp [iterationLoop, ran₂, passed]; rfl, ?_, ?_⟩
      · simp [sameCalls, sameDrd]
      · rfl

end Lockstep

/-- With an engine that never returns `DCGM_ST_OK` with a system error, `RunDiagOnce` on
one request returns the same outcome in both formats, and keeps the request. -/
theorem runDiagOnce_agree (lib : Library) (envs : Nat → Environment) (gpuList : List Char)
    (inRange : ∀ gpuIndex ∈ parseGpuList gpuList, gpuIndex < dcgmMaxNumDevices)
    (noSystemError : ∀ k drd, ((envs k).dcgmActionValidate drd remoteDiagExecutorResponse).1 = dcgmStOk →
      ((envs k).dcgmActionValidate drd remoteDiagExecutorResponse).2.systemError.msg = [])
    (i : Nat) (d₁ d₂ : Diag) (sameDrd : d₁.drd = d₂.drd) (filter : d₁.drd.gpuList = gpuList) :
    ∃ ret d₁' d₂', runDiagOnce lib (envs i) d₁ = some (ret, d₁') ∧ runDiagOnce lib (envs i) d₂ = some (ret, d₂') ∧
      d₁'.drd = d₁.drd ∧ d₂'.drd = d₂.drd := by
  obtain ⟨⟨ret₁, d₁'⟩, ran₁⟩ := runDiagOnce_exists lib (envs i) d₁ (filter ▸ inRange)
  obtain ⟨⟨ret₂, d₂'⟩, ran₂⟩ := runDiagOnce_exists lib (envs i) d₂ (sameDrd ▸ filter ▸ inRange)
  have quiet : ∀ json, onceOutcome lib (envs i) d₁.drd json = onceOutcome lib (envs i) d₁.drd true := by
    intro json
    cases json
    · rw [onceOutcome_text, if_neg]
      rintro ⟨ok, systemError⟩
      unfold executeDiagOnServer at ok systemError
      split at ok
      · exact absurd ok (by decide)
      · next completed => simp only [completed] at systemError; exact systemError (noSystemError i _ ok)
    · rfl
  have same : ret₁ = ret₂ := by
    have outcome₁ := runDiagOnce_outcome lib _ _ _ ran₁
    have outcome₂ := runDiagOnce_outcome lib _ _ _ ran₂
    rw [quiet] at outcome₁
    rw [← sameDrd, quiet] at outcome₂
    exact outcome₁.trans outcome₂.symm
  subst same
  exact ⟨ret₁, d₁', d₂', ran₁, ran₂, (runDiagOnce_frame lib _ _ _ ran₁).1, (runDiagOnce_frame lib _ _ _ ran₂).1⟩

/-- With a GPU filter inside the per-GPU array and an engine that never returns
`DCGM_ST_OK` with a system error, the output format changes nothing but the output:
`RunStartDiag` in text mode and in JSON mode, for any iteration count and whatever each
iteration's engine and the signals do, makes the same `RunDiagOnce` calls, on the same
requests and with the same outcomes, and returns the same outcome. -/
theorem runStartDiag_format_agnostic (lib : Library) (envs : Nat → Environment) (d : Diag)
    (inRange : ∀ gpuIndex ∈ parseGpuList d.drd.gpuList, gpuIndex < dcgmMaxNumDevices)
    (noSystemError : ∀ k drd, ((envs k).dcgmActionValidate drd remoteDiagExecutorResponse).1 = dcgmStOk →
      ((envs k).dcgmActionValidate drd remoteDiagExecutorResponse).2.systemError.msg = []) :
    ∃ ret calls textRun jsonRun,
      runStartDiag lib (fun i => runDiagOnce lib (envs i)) { d with jsonOutput := false } = some (ret, textRun, calls) ∧
      runStartDiag lib (fun i => runDiagOnce lib (envs i)) { d with jsonOutput := true } = some (ret, jsonRun, calls) := by
  have agree := runDiagOnce_agree lib envs d.drd.gpuList inRange noSystemError
  by_cases single : d.iterations ≤ 1
  · obtain ⟨ret, textRun, jsonRun, textRan, jsonRan, -, -⟩ :=
      agree 0 { d with jsonOutput := false } { d with jsonOutput := true } rfl rfl
    exact ⟨ret, [(d.drd, ret)], textRun, jsonRun, by simp [runStartDiag, single, textRan],
      by simp [runStartDiag, single, jsonRan]⟩
  · obtain ⟨final₁, final₂, looped₁, looped₂, calls, overall⟩ := iterationLoop_lockstep lib agree d.iterations 0
      ⟨{ d with jsonOutput := false, drd := { d.drd with totalIterations := d.iterations } }, .null, dcgmStOk, []⟩
      ⟨{ d with jsonOutput := true, drd := { d.drd with totalIterations := d.iterations } }, .null, dcgmStOk, []⟩
      rfl rfl rfl rfl
    exact ⟨final₁.overallRet, final₁.calls, final₁.diag.finishIterations lib final₁.output final₁.overallRet,
      final₂.diag.finishIterations lib final₂.output final₂.overallRet, by simp [runStartDiag, single, looped₁],
      by simp [runStartDiag, single, looped₂, calls, overall]⟩

/-- Format independence at two iterations on an engine that passes. -/
theorem format_agnostic_passing :
    (∀ gpuIndex ∈ parseGpuList twoTextIterations.drd.gpuList, gpuIndex < dcgmMaxNumDevices) ∧
      (∀ (_ : Nat) drd, (passingEngine.dcgmActionValidate drd remoteDiagExecutorResponse).1 = dcgmStOk →
        (passingEngine.dcgmActionValidate drd remoteDiagExecutorResponse).2.systemError.msg = []) ∧
      ∃ ret calls textRun jsonRun,
        runStartDiag ⟨fun _ => .monitor, fun _ => [], []⟩ (fun _ => runDiagOnce ⟨fun _ => .monitor, fun _ => [], []⟩
          passingEngine) { twoTextIterations with jsonOutput := false } = some (ret, textRun, calls) ∧
        runStartDiag ⟨fun _ => .monitor, fun _ => [], []⟩ (fun _ => runDiagOnce ⟨fun _ => .monitor, fun _ => [], []⟩
          passingEngine) { twoTextIterations with jsonOutput := true } = some (ret, jsonRun, calls) :=
  ⟨by decide, fun _ _ _ => rfl,
    runStartDiag_format_agnostic _ (fun _ => passingEngine) twoTextIterations (by decide) fun _ _ _ => rfl⟩

end DcgmiDiag
