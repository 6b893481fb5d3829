import DcgmiDiag.RunStartDiag

/-!
# What a diagnostic prints

With JSON output a single run prints one document, its report or its failure message.
With more than one iteration, `HelperDisplayAsJson` keeps a run's
document in `m_jsonTmpValue` instead of printing it, and the loop of `RunStartDiag`
copies that value into `iterations[i]` of its own document after each call. A run
whose engine fails, or that a signal kills, prints its failure message as a document
of its own and leaves `m_jsonTmpValue` as it was: its entry repeats the entry before
it, or the object's initial value when it is the first.

The loop's law is proved for every one-run function that keeps the request and either
stores a report or fails (`StoresReports`); `RunDiagOnce` is such a function, with
`storedReport` of each iteration's engine as its report, once its GPU filter names only
slots of the per-GPU array, so that it returns.

In text mode every iteration is announced before its run, and the runs' own output
follows each announcement unchanged; the closing line says whether all of them passed.
-/

namespace DcgmiDiag

/-- The report an iterated JSON run of `RunDiagOnce` keeps in `m_jsonTmpValue`: the
document of the engine's response when the engine completed with `DCGM_ST_OK`, none
when the run was killed or the engine failed. -/
def storedReport (env : Environment) (drd : RunDiag) : Option JsonValue :=
  let server := executeDiagOnServer env drd initializeDiagResponse
  if server.1 = dcgmStOk then
    (gpuSlots (selectGpus drd server.2)).map (helperJsonBuildOutput drd .null server.2)
  else none

/-- The failure message an iterated JSON run of `RunDiagOnce` prints as a document of its
own when it has no report: that of the engine's failure, with the build version. -/
def failureReport (lib : Library) (env : Environment) (drd : RunDiag) : JsonValue :=
  let server := executeDiagOnServer env drd initializeDiagResponse
  failureDocument lib (engineFailureMessage lib env drd server.1 server.2)

/-! ## One run -/

/-- In JSON mode an engine failure prints its message as one document. -/
theorem Diag.reportEngineFailure_json (lib : Library) (env : Environment) (d : Diag) (result : DcgmReturn)
    (diagResult : DiagResponse) (json : d.jsonOutput = true) :
    d.reportEngineFailure lib env result diagResult =
      d.print [.json (failureDocument lib (engineFailureMessage lib env d.drd result diagResult))] :=
  if_pos json

/-- A JSON run hands the report of the engine's response to `HelperDisplayAsJson`, or,
without one, fails and prints its failure message. -/
theorem runDiagOnce_json (lib : Library) (env : Environment) (d : Diag) (run : DcgmReturn × Diag)
    (json : d.jsonOutput = true) (ran : runDiagOnce lib env d = some run) :
    (∃ report, storedReport env d.drd = some report ∧ run.2 = d.helperDisplayAsJson report) ∨
      (storedReport env d.drd = none ∧ run.1 ≠ dcgmStOk ∧ run.2 = d.print [.json (failureReport lib env d.drd)]) := by
  dsimp only [runDiagOnce, Diag.reportResults, storedReport, failureReport] at ran ⊢
  split at ran
  · next engineOk =>
    simp only [json, Bool.not_true, Bool.false_and, Bool.false_eq_true, if_false] at ran
    obtain ⟨gpuIndices, slots, rendered⟩ := Option.bind_eq_some.mp ran
    cases rendered
    exact .inl ⟨helperJsonBuildOutput d.drd .null (executeDiagOnServer env d.drd initializeDiagResponse).2 gpuIndices,
      by simp [engineOk, slots], by simp [Diag.render, json]⟩
  · next engineFailed =>
    cases ran
    exact .inr ⟨by simp [engineFailed], engineFailed, Diag.reportEngineFailure_json lib env d _ _ json⟩

/-- A run of an iterated JSON run keeps its report, printing nothing, or, without one,
fails, prints its failure message and keeps the value from before. -/
theorem runDiagOnce_stores (lib : Library) (env : Environment) (d : Diag) (run : DcgmReturn × Diag)
    (json : d.jsonOutput = true) (iterated : 1 < d.iterations) (ran : runDiagOnce lib env d = some run) :
    run.2.jsonTmpValue = (storedReport env d.drd).getD d.jsonTmpValue ∧
      (storedReport env d.drd = none → run.1 ≠ dcgmStOk) ∧
      run.2.stdout = d.stdout ++
        if (storedReport env d.drd).isSome then [] else [.json (failureReport lib env d.drd)] := by
  rcases runDiagOnce_json lib env d run json ran with ⟨report, stored, rendered⟩ | ⟨stored, failed, printed⟩
  · have kept : ¬d.iterations ≤ 1 := by omega
    simp [stored, rendered, Diag.helperDisplayAsJson, kept]
  · simp [stored, failed, printed, Diag.print]

/-- A JSON run of one iteration prints one document: the report of the engine's response,
or, when the engine failed or a signal killed it, the failure message. -/
theorem runDiagOnce_json_single (lib : Library) (env : Environment) (d : Diag) (run : DcgmReturn × Diag)
    (json : d.jsonOutput = true) (single : d.iterations ≤ 1) (ran : runDiagOnce lib env d = some run) :
    run.2.stdout = d.stdout ++ [.json ((storedReport env d.drd).getD (failureReport lib env d.drd))] := by
  rcases runDiagOnce_json lib env d run json ran with ⟨report, stored, rendered⟩ | ⟨stored, -, printed⟩
  · simp [stored, rendered, Diag.helperDisplayAsJson, single, Diag.print]
  · simp [stored, printed, Diag.print]

/-! ## The loop -/

/-- What the loop of an iterated JSON run needs of the one-run function: it returns and
keeps the request, the format and the count, and in an iterated JSON run it keeps the
report `store i` of its request in `m_jsonTmpValue`, printing nothing, or, when there is
none, fails, prints the document `failure i` of its request and keeps the value from
before. It need only return
on requests with the GPU filter `gpuList`. -/
structure StoresReports (store : Nat → RunDiag → Option JsonValue) (failure : Nat → RunDiag → JsonValue)
    (gpuList : List Char) (runOnce : Nat → Diag → Option (DcgmReturn × Diag)) : Prop where
  total : ∀ i d, d.drd.gpuList = gpuList → ∃ run, runOnce i d = some run
  frame : ∀ i d run, runOnce i d = some run → d.SameRequest run.2
  stores : ∀ i d run, runOnce i d = some run → d.jsonOutput = true → 1 < d.iterations →
    run.2.jsonTmpValue = (store i d.drd).getD d.jsonTmpValue ∧
      (store i d.drd = none → run.1 ≠ dcgmStOk) ∧
      run.2.stdout = d.stdout ++ if (store i d.drd).isSome then [] else [.json (failure i d.drd)]

/-- `RunDiagOnce`, with each iteration's engine and a GPU filter inside the per-GPU array,
returns and stores `storedReport`, or prints `failureReport`. -/
theorem storesReports_runDiagOnce (lib : Library) (envs : Nat → Environment) (gpuList : List Char)
    (inRange : ∀ gpuIndex ∈ parseGpuList gpuList, gpuIndex < dcgmMaxNumDevices) :
    StoresReports (fun i => storedReport (envs i)) (fun i => failureReport lib (envs i)) gpuList
      (fun i => runDiagOnce lib (envs i)) :=
  ⟨fun i d filter => runDiagOnce_exists lib (envs i) d (filter ▸ inRange), fun i => runDiagOnce_frame lib (envs i),
    fun i d run ran json iterated => runDiagOnce_stores lib (envs i) d run json iterated ran⟩

/-- A write below one member leaves the others. -/
theorem get_update_key_of_ne (v x : JsonValue) (name other : JsonKey) (path rest : List Selector)
    (distinct : other ≠ name) : (v.update (.key name :: path) x).get (.key other :: rest) = v.get (.key other :: rest) := by
  simp [distinct]

/-- Writing `iterations[i]` leaves the other entries. -/
theorem get_update_iterations_of_ne (v x : JsonValue) (i k : Nat) (distinct : k ≠ i) :
    (v.update [.key .nvvsIterations, .index i] x).get [.key .nvvsIterations, .index k] =
      v.get [.key .nvvsIterations, .index k] := by
  simp [distinct]

/-- Writing the entry after the last one appends it. -/
theorem length_update_iterations (v x : JsonValue) (i : Nat)
    (counted : (v.member .nvvsIterations).elements.length = i) :
    ((v.update [.key .nvvsIterations, .index i] x).member .nvvsIterations).elements.length = i + 1 := by
  subst counted
  simp [JsonValue.update, JsonValue.elements_setElement_length]

/-- What the loop of an iterated JSON run has done from iteration `i` and `state` when it
ends in `final` after `n` calls: the document has one entry per iteration so far, each
call's entry is its report or, without one, the entry before it; only the last call
may lack a report, and that call alone prints, its failure message; the verdict is
set exactly when a call failed. -/
structure LoopDocument (lib : Library) (store : Nat → RunDiag → Option JsonValue)
    (failure : Nat → RunDiag → JsonValue) (i n : Nat) (state final : Iterated) : Prop where
  json : final.diag.jsonOutput = true
  calls : final.calls.length = state.calls.length + n
  entries : (final.output.member .nvvsIterations).elements.length = i + n
  earlier : ∀ k < i, final.output.get [.key .nvvsIterations, .index k] =
    state.output.get [.key .nvvsIterations, .index k]
  reports : ∀ k, i ≤ k → k < i + n → final.output.get [.key .nvvsIterations, .index k] =
    (store k { state.diag.drd with currentIteration := k }).getD
      (if k = i then state.diag.jsonTmpValue else final.output.get [.key .nvvsIterations, .index (k - 1)])
  storedBeforeLast : ∀ k, i ≤ k → k + 1 < i + n → (store k { state.diag.drd with currentIteration := k }).isSome
  passed : final.overallRet = dcgmStOk → final.output.member .nvvsResult = state.output.member .nvvsResult ∧
    final.output.member .nvvsWarning = state.output.member .nvvsWarning
  failed : final.overallRet ≠ dcgmStOk → final.output.member .nvvsResult = .string "Fail".toList ∧
    final.output.member .nvvsWarning = .string (lib.errorString final.overallRet)
  printed : final.diag.stdout = state.diag.stdout ++
    if n ≠ 0 ∧ (store (i + n - 1) { state.diag.drd with currentIteration := i + n - 1 }).isNone then
      [.json (failure (i + n - 1) { state.diag.drd with currentIteration := i + n - 1 })]
    else []

section Loop

variable (lib : Library) {store : Nat → RunDiag → Option JsonValue} {failure : Nat → RunDiag → JsonValue}
  {gpuList : List Char} {runOnce : Nat → Diag → Option (DcgmReturn × Diag)}

/-- The call that fails ends the loop's document: its entry is its report or the value
before it, the verdict is `Fail` with its error string, and it printed its failure
message exactly when it had no report. -/
theorem loopDocument_of_failed {state : Iterated} {i : Nat} {ret : DcgmReturn} {d' : Diag}
    (json : d'.jsonOutput = true) (failed : ret ≠ dcgmStOk)
    (stored : d'.jsonTmpValue = (store i { state.diag.drd with currentIteration := i }).getD state.diag.jsonTmpValue)
    (printed : d'.stdout = state.diag.stdout ++
      if (store i { state.diag.drd with currentIteration := i }).isSome then []
      else [.json (failure i { state.diag.drd with currentIteration := i })])
    (counted : (state.output.member .nvvsIterations).elements.length = i) :
    LoopDocument lib store failure i 1 state
      { state with diag := d', calls := state.calls ++ [({ state.diag.drd with currentIteration := i }, ret)],
                   overallRet := ret,
                   output := ((state.output.update [.key .nvvsIterations, .index i] d'.jsonTmpValue).update
                     [.key .nvvsResult] (.string "Fail".toList)).update [.key .nvvsWarning]
                       (.string (lib.errorString ret)) } := by
  refine ⟨json, by simp, ?_, fun k before => ?_, fun k start below => ?_, fun k start below => by omega,
    fun passed => absurd passed failed, fun _ => by simp, ?_⟩
  · simpa using length_update_iterations _ _ _ counted
  · simp only [get_update_key_of_ne _ _ _ _ _ _ (by simp : JsonKey.nvvsIterations ≠ .nvvsWarning),
      get_update_key_of_ne _ _ _ _ _ _ (by simp : JsonKey.nvvsIterations ≠ .nvvsResult)]
    exact get_update_iterations_of_ne _ _ _ _ (by omega)
  · obtain rfl : k = i := by omega
    simp [get_update_key_of_ne, JsonValue.get_update_append _ [_, _] [], stored]
  · rw [printed, Nat.add_sub_cancel]
    cases (store i { state.diag.drd with currentIteration := i }) <;> simp

/-- A passing call with a report, followed by a loop that built its document as
`LoopDocument` says from the next iteration on, builds it from this one. -/
theorem LoopDocument.cons {state next final : Iterated} {i n : Nat} {report : JsonValue}
    (reported : store i { state.diag.drd with currentIteration := i } = some report)
    (nextDrd : next.diag.drd = { state.diag.drd with currentIteration := i })
    (nextOutput : next.output = state.output.update [.key .nvvsIterations, .index i] report)
    (nextTmp : next.diag.jsonTmpValue = report) (nextStdout : next.diag.stdout = state.diag.stdout)
    (nextCalls : next.calls.length = state.calls.length + 1)
    (document : LoopDocument lib store failure (i + 1) n next final) :
    LoopDocument lib store failure i (n + 1) state final := by
  have request : ∀ k, { next.diag.drd with currentIteration := k } = { state.diag.drd with currentIteration := k } :=
    fun k => by rw [nextDrd]
  have atI : final.output.get [.key .nvvsIterations, .index i] = report := by
    rw [document.earlier i (by omega), nextOutput]
    exact JsonValue.get_update_append _ [_, _] [] _
  refine ⟨document.json, by rw [document.calls, nextCalls]; omega, by rw [document.entries]; omega,
    fun k before => ?_, fun k start below => ?_, fun k start below => ?_, fun passedAll => ?_, document.failed, ?_⟩
  · rw [document.earlier k (by omega), nextOutput, get_update_iterations_of_ne _ _ _ _ (by omega)]
  · by_cases first : k = i
    · subst first
      simp [atI, reported]
    · rw [document.reports k (by omega) (by omega), request, if_neg first]
      split
      · next next => subst next; simp [atI, nextTmp]
      · rfl
  · by_cases first : k = i
    · subst first
      simp [reported]
    · simpa [request] using document.storedBeforeLast k (by omega) (by omega)
  · obtain ⟨result, warning⟩ := document.passed passedAll
    simp [result, warning, nextOutput]
  · rw [document.printed, nextStdout, request]
    rcases n with _ | n
    · simp [reported]
    · rw [show i + 1 + (n + 1) - 1 = i + (n + 1 + 1) - 1 by omega]
      simp only [ne_eq, Nat.add_one_ne_zero, not_false_eq_true, true_and, reported, Option.isSome_some,
        if_true, List.append_nil]

/-- The loop of an iterated JSON run from iteration `i`, with no failure so far and an
entry for each earlier iteration, makes at least one call and at most `remaining`, and
builds its document as `LoopDocument` says. -/
theorem iterationLoop_document (stores : StoresReports store failure gpuList runOnce) (remaining i : Nat)
    (state : Iterated) (filter : state.diag.drd.gpuList = gpuList)
    (json : state.diag.jsonOutput = true) (iterated : 1 < state.diag.iterations)
    (ok : state.overallRet = dcgmStOk)
    (counted : (state.output.member .nvvsIterations).elements.length = i) :
    ∃ final n, iterationLoop lib runOnce remaining i state = some final ∧ n ≤ remaining ∧
      (remaining ≠ 0 → n ≠ 0) ∧ LoopDocument lib store failure i n state final := by
  induction remaining generalizing i state with
  | zero =>
    exact ⟨state, 0, rfl, le_rfl, by simp, json, by simp, counted, fun _ _ => rfl, fun _ _ _ => by omega,
      fun _ _ _ => by omega, fun _ => ⟨rfl, rfl⟩, fun failed => absurd ok failed, by simp⟩
  | succ remaining inductionHypothesis =>
    have started : state.diag.startIteration i =
        { state.diag with drd := { state.diag.drd with currentIteration := i } } := by
      simp [Diag.startIteration, json]
    obtain ⟨⟨ret, d'⟩, ran⟩ := stores.total i (state.diag.startIteration i) (by simp [started, filter])
    obtain ⟨sameDrd, sameJson, sameIterations⟩ := stores.frame _ _ _ ran
    obtain ⟨stored, failsWithout, printed⟩ :=
      stores.stores _ _ _ ran (by simp [started, json]) (by simp [started, iterated])
    simp only [started] at sameDrd sameJson sameIterations stored failsWithout printed
    by_cases passed : ret = dcgmStOk
    · obtain ⟨report, reported⟩ : ∃ report, store i { state.diag.drd with currentIteration := i } = some report := by
        cases stored? : store i { state.diag.drd with currentIteration := i } with
        | none => exact absurd passed (failsWithout stored?)
        | some report => exact ⟨report, rfl⟩
      obtain ⟨final, n, looped, bounded, made, document⟩ := inductionHypothesis (i + 1)
        { state with diag := d', output := state.output.update [.key .nvvsIterations, .index i] d'.jsonTmpValue,
                     calls := state.calls ++ [((state.diag.startIteration i).drd, ret)] }
        (by simp [sameDrd, filter]) (by simpa [sameJson] using json) (by simpa [sameIterations] using iterated) ok
        (length_update_iterations _ _ _ counted)
      have tmp : d'.jsonTmpValue = report := by simpa [reported] using stored
      refine ⟨final, n + 1, by simpa [iterationLoop, ran, passed] using looped, by omega, by simp,
        LoopDocument.cons lib reported sameDrd (by simp [tmp]) tmp ?_ (by simp) document⟩
      simpa [reported] using printed
    · have loop : iterationLoop lib runOnce (remaining + 1) i state = some
          { state with diag := d', calls := state.calls ++ [({ state.diag.drd with currentIteration := i }, ret)],
                       overallRet := ret,
                       output := ((state.output.update [.key .nvvsIterations, .index i] d'.jsonTmpValue).update
                         [.key .nvvsResult] (.string "Fail".toList)).update [.key .nvvsWarning]
                           (.string (lib.errorString ret)) } := by
        simp [iterationLoop, ran, passed, sameJson, json]
      exact ⟨_, 1, loop, by omega, by simp,
        loopDocument_of_failed lib (by simpa [sameJson] using json) passed stored printed counted⟩

/-- `RunStartDiag` in an iterated JSON run: the loop from iteration 0 with an empty
document, and the document it prints. -/
theorem runStartDiag_json_loop (d : Diag) (stores : StoresReports store failure d.drd.gpuList runOnce)
    (json : d.jsonOutput = true) (iterated : 1 < d.iterations) :
    ∃ final n, runStartDiag lib runOnce d = some (final.overallRet,
        final.diag.print [.json (if final.overallRet = dcgmStOk then
          final.output.update [.key .nvvsResult] (.string "Pass".toList) else final.output)], final.calls) ∧
      n ≠ 0 ∧ LoopDocument lib store failure 0 n
        ⟨{ d with drd := { d.drd with totalIterations := d.iterations } }, .null, dcgmStOk, []⟩ final := by
  obtain ⟨final, n, looped, -, made, document⟩ := iterationLoop_document lib stores d.iterations 0
    ⟨{ d with drd := { d.drd with totalIterations := d.iterations } }, .null, dcgmStOk, []⟩ rfl json iterated rfl rfl
  refine ⟨final, n, ?_, made (by omega), document⟩
  simp [runStartDiag, show ¬d.iterations ≤ 1 by omega, looped, Diag.finishIterations, document.json]

end Loop

/-- The entries of the printed document are those of the loop's: the verdict is another
member. -/
theorem get_iterations_verdict (output : JsonValue) (passed : Prop) [Decidable passed] (k : Nat) :
    (if passed then output.update [.key .nvvsResult] (.string "Pass".toList) else output).get
        [.key .nvvsIterations, .index k] = output.get [.key .nvvsIterations, .index k] := by
  split <;> simp

section Printed

variable {lib : Library} {store : Nat → RunDiag → Option JsonValue} {failure : Nat → RunDiag → JsonValue}
  {state final : Iterated} {i n : Nat}

/-- The document `RunStartDiag` prints after the loop has one entry per call. -/
theorem LoopDocument.printed_entries (document : LoopDocument lib store failure i n state final) :
    ((if final.overallRet = dcgmStOk then final.output.update [.key .nvvsResult] (.string "Pass".toList)
        else final.output).member .nvvsIterations).elements.length = i + n := by
  have entries := document.entries
  split <;> simp_all

/-- The document `RunStartDiag` prints after the loop says `Pass` exactly when the loop
passed. -/
theorem LoopDocument.printed_result (document : LoopDocument lib store failure i n state final) :
    (if final.overallRet = dcgmStOk then final.output.update [.key .nvvsResult] (.string "Pass".toList)
        else final.output).member .nvvsResult =
      .string (if final.overallRet = dcgmStOk then "Pass".toList else "Fail".toList) := by
  by_cases passed : final.overallRet = dcgmStOk
  · simp [passed]
  · simp [passed, (document.failed passed).1]

end Printed

/-- The document of an iterated JSON run of `RunDiagOnce` whose GPU filter names only
slots of the per-GPU array, whatever each iteration's engine does: it has one entry in
`iterations` per iteration run, and entry `k` is the report of iteration `k`'s response
or, when its engine failed or a signal killed it, a copy of entry `k - 1` (of the
initial `m_jsonTmpValue` for the first); only the last iteration can lack a report. Its `result` is `Pass` exactly when the outcome is
`DCGM_ST_OK`, and otherwise `Fail` with the outcome's error string as `warning`. -/
theorem runStartDiag_json_document (lib : Library) (envs : Nat → Environment) (d : Diag)
    (json : d.jsonOutput = true) (iterated : 1 < d.iterations)
    (inRange : ∀ gpuIndex ∈ parseGpuList d.drd.gpuList, gpuIndex < dcgmMaxNumDevices) :
    ∃ ret d' calls doc, runStartDiag lib (fun i => runDiagOnce lib (envs i)) d = some (ret, d', calls) ∧
      d'.stdout.getLast? = some (.json doc) ∧
      (doc.member .nvvsIterations).elements.length = calls.length ∧
      (∀ k < calls.length, doc.get [.key .nvvsIterations, .index k] =
        (storedReport (envs k) { d.drd with totalIterations := d.iterations, currentIteration := k }).getD
          (if k = 0 then d.jsonTmpValue else doc.get [.key .nvvsIterations, .index (k - 1)])) ∧
      (∀ k, k + 1 < calls.length →
        (storedReport (envs k) { d.drd with totalIterations := d.iterations, currentIteration := k }).isSome) ∧
      doc.member .nvvsResult = .string (if ret = dcgmStOk then "Pass".toList else "Fail".toList) ∧
      doc.member .nvvsWarning = if ret = dcgmStOk then .null else .string (lib.errorString ret) := by
  obtain ⟨final, n, ran, -, document⟩ :=
    runStartDiag_json_loop lib d (storesReports_runDiagOnce lib envs d.drd.gpuList inRange) json iterated
  have calls : final.calls.length = n := by simpa using document.calls
  refine ⟨_, _, _, if final.overallRet = dcgmStOk then
      final.output.update [.key .nvvsResult] (.string "Pass".toList) else final.output,
    ran, by simp [Diag.print], by rw [document.printed_entries, calls, zero_add], fun k below => ?_,
    fun k below => ?_, document.printed_result, ?_⟩
  · rw [get_iterations_verdict, get_iterations_verdict, document.reports k (Nat.zero_le k) (by omega)]
  · exact document.storedBeforeLast k (Nat.zero_le k) (by omega)
  · by_cases passed : final.overallRet = dcgmStOk
    · simp [passed, (document.passed passed).2]
    · simp [passed, (document.failed passed).2]

/-- A JSON request for two iterations. -/
def twoJsonIterations : Diag := ⟨⟨0, 0, [], [], 0, 0⟩, true, 2, .null, []⟩

/-- The document law at two JSON iterations with DCGM paused. -/
theorem runStartDiag_json_document_paused :
    (∀ gpuIndex ∈ parseGpuList twoJsonIterations.drd.gpuList, gpuIndex < dcgmMaxNumDevices) ∧
      ∃ ret d' calls doc, runStartDiag ⟨fun _ => .monitor, fun _ => [], []⟩
          (fun _ => runDiagOnce ⟨fun _ => .monitor, fun _ => [], []⟩ pausedEngine) twoJsonIterations =
            some (ret, d', calls) ∧
        d'.stdout.getLast? = some (.json doc) ∧
        (doc.member .nvvsIterations).elements.length = calls.length ∧
        (∀ k < calls.length, doc.get [.key .nvvsIterations, .index k] =
          (storedReport pausedEngine { twoJsonIterations.drd with
              totalIterations := twoJsonIterations.iterations, currentIteration := k }).getD
            (if k = 0 then twoJsonIterations.jsonTmpValue else doc.get [.key .nvvsIterations, .index (k - 1)])) ∧
        (∀ k, k + 1 < calls.length →
          (storedReport pausedEngine { twoJsonIterations.drd with
            totalIterations := twoJsonIterations.iterations, currentIteration := k }).isSome) ∧
        doc.member .nvvsResult = .string (if ret = dcgmStOk then "Pass".toList else "Fail".toList) ∧
        doc.member .nvvsWarning = if ret = dcgmStOk then .null
          else .string (Library.errorString ⟨fun _ => .monitor, fun _ => [], []⟩ ret) :=
  ⟨by decide, runStartDiag_json_document _ _ twoJsonIterations rfl (by decide) (by decide)⟩

/-- What an iterated JSON run of `RunDiagOnce` with a GPU filter inside the per-GPU array
prints, whatever each iteration's engine does: the failure message of its last
iteration, exactly when that iteration's engine failed or a signal killed it, and then
its own document, which has one `iterations` entry per iteration run and the verdict
of the outcome. No iteration's own report is printed. -/
theorem runStartDiag_json_prints (lib : Library) (envs : Nat → Environment) (d : Diag)
    (json : d.jsonOutput = true) (iterated : 1 < d.iterations)
    (inRange : ∀ gpuIndex ∈ parseGpuList d.drd.gpuList, gpuIndex < dcgmMaxNumDevices) :
    ∃ ret d' calls doc, runStartDiag lib (fun i => runDiagOnce lib (envs i)) d = some (ret, d', calls) ∧
      d'.stdout = d.stdout ++ (if (storedReport (envs (calls.length - 1))
          { d.drd with totalIterations := d.iterations, currentIteration := calls.length - 1 }).isSome then []
        else [.json (failureReport lib (envs (calls.length - 1))
          { d.drd with totalIterations := d.iterations, currentIteration := calls.length - 1 })]) ++ [.json doc] ∧
      (doc.member .nvvsIterations).elements.length = calls.length ∧
      doc.member .nvvsResult = .string (if ret = dcgmStOk then "Pass".toList else "Fail".toList) := by
  obtain ⟨final, n, ran, made, document⟩ :=
    runStartDiag_json_loop lib d (storesReports_runDiagOnce lib envs d.drd.gpuList inRange) json iterated
  have calls : final.calls.length = n := by simpa using document.calls
  refine ⟨_, _, _, if final.overallRet = dcgmStOk then
      final.output.update [.key .nvvsResult] (.string "Pass".toList) else final.output, ran, ?_,
    by rw [document.printed_entries, calls, zero_add], document.printed_result⟩
  simp only [Diag.print, document.printed, calls, made, ne_eq, not_false_eq_true, true_and, zero_add]
  cases (storedReport (envs (n - 1)) { d.drd with totalIterations := d.iterations, currentIteration := n - 1 }) <;>
    rfl

/-- The printing law at two JSON iterations with DCGM paused. -/
theorem runStartDiag_json_prints_paused :
    (∀ gpuIndex ∈ parseGpuList twoJsonIterations.drd.gpuList, gpuIndex < dcgmMaxNumDevices) ∧
      ∃ ret d' calls doc, runStartDiag ⟨fun _ => .monitor, fun _ => [], []⟩
          (fun _ => runDiagOnce ⟨fun _ => .monitor, fun _ => [], []⟩ pausedEngine) twoJsonIterations =
            some (ret, d', calls) ∧
        d'.stdout = twoJsonIterations.stdout ++
          (if (storedReport pausedEngine { twoJsonIterations.drd with
              totalIterations := twoJsonIterations.iterations, currentIteration := calls.length - 1 }).isSome then []
          else [.json (failureReport ⟨fun _ => .monitor, fun _ => [], []⟩ pausedEngine { twoJsonIterations.drd with
              totalIterations := twoJsonIterations.iterations, currentIteration := calls.length - 1 })]) ++
          [.json doc] ∧
        (doc.member .nvvsIterations).elements.length = calls.length ∧
        doc.member .nvvsResult = .string (if ret = dcgmStOk then "Pass".toList else "Fail".toList) :=
  ⟨by decide, runStartDiag_json_prints _ _ twoJsonIterations rfl (by decide) (by decide)⟩

/-- A JSON request for one iteration. -/
def oneJsonIteration : Diag := ⟨⟨0, 0, [], [], 0, 0⟩, true, 1, .null, []⟩

/-- A JSON run of one iteration whose GPU filter names only slots of the per-GPU array
prints exactly one document, whatever the engine does: the report of the engine's
response, or, when the engine failed or a signal killed the run, its failure message. -/
theorem runStartDiag_single_json_prints (lib : Library) (envs : Nat → Environment) (d : Diag)
    (json : d.jsonOutput = true) (single : d.iterations ≤ 1)
    (inRange : ∀ gpuIndex ∈ parseGpuList d.drd.gpuList, gpuIndex < dcgmMaxNumDevices) :
    ∃ ret d' calls, runStartDiag lib (fun i => runDiagOnce lib (envs i)) d = some (ret, d', calls) ∧
      d'.stdout = d.stdout ++ [.json ((storedReport (envs 0) d.drd).getD (failureReport lib (envs 0) d.drd))] := by
  obtain ⟨run, ran⟩ := runDiagOnce_exists lib (envs 0) d inRange
  exact ⟨run.1, run.2, [(d.drd, run.1)], by simp [runStartDiag, single, ran],
    runDiagOnce_json_single lib (envs 0) d run json single ran⟩

/-- The single-document law at one JSON iteration with DCGM paused. -/
theorem runStartDiag_single_json_prints_paused :
    (∀ gpuIndex ∈ parseGpuList oneJsonIteration.drd.gpuList, gpuIndex < dcgmMaxNumDevices) ∧
      ∃ ret d' calls, runStartDiag ⟨fun _ => .monitor, fun _ => [], []⟩
          (fun _ => runDiagOnce ⟨fun _ => .monitor, fun _ => [], []⟩ pausedEngine) oneJsonIteration =
            some (ret, d', calls) ∧
        d'.stdout = oneJsonIteration.stdout ++ [.json ((storedReport pausedEngine oneJsonIteration.drd).getD
          (failureReport ⟨fun _ => .monitor, fun _ => [], []⟩ pausedEngine oneJsonIteration.drd))] :=
  ⟨by decide, runStartDiag_single_json_prints _ _ oneJsonIteration rfl (by decide) (by decide)⟩

/-! ## The transcript of an iterated text run -/

/-- What a text-mode run of `RunDiagOnce` prints for the request `drd`: the engine's
failure message, the system error that came with `DCGM_ST_OK`, or the text report of
the response on the GPUs the request selects. -/
def textRunOutput (lib : Library) (env : Environment) (drd : RunDiag) : List Printed :=
  let server := executeDiagOnServer env drd initializeDiagResponse
  if server.1 = dcgmStOk then
    if !server.2.systemError.msg.isEmpty then [.text ("Error: ".toList ++ server.2.systemError.msg ++ ['\n'])]
    else ((gpuSlots (selectGpus drd server.2)).map (textReport drd server.2)).getD []
  else [.text (engineFailureMessage lib env drd server.1 server.2)]

/-- A text run appends `textRunOutput` of its request: what it prints depends on the
request and the engine alone. -/
theorem runDiagOnce_text_prints (lib : Library) (env : Environment) (d : Diag) (run : DcgmReturn × Diag)
    (text : d.jsonOutput = false) (ran : runDiagOnce lib env d = some run) :
    run.2.stdout = d.stdout ++ textRunOutput lib env d.drd := by
  dsimp only [runDiagOnce, Diag.reportResults, textRunOutput] at ran ⊢
  split at ran
  · next engineOk =>
    rw [if_pos engineOk]
    split at ran
    · next systemError =>
      cases ran
      simp only [text, Bool.not_false, Bool.true_and] at systemError
      simp [systemError, Diag.helperDisplayFailureMessage, text, Diag.print]
    · next quiet =>
      simp only [text, Bool.not_false, Bool.true_and] at quiet
      obtain ⟨gpuIndices, slots, rendered⟩ := Option.bind_eq_some.mp ran
      cases rendered
      simp [quiet, slots, Diag.render, text, Diag.print]
  · next engineFailed =>
    cases ran
    simp [engineFailed, Diag.reportEngineFailure, Diag.helperDisplayFailureMessage, text, Diag.print]

/-- What the loop of an iterated text run needs of the one-run function: it returns on
requests with the GPU filter `gpuList`, keeps the request, the format and the count,
and in text mode appends `output i` of its request to standard output. -/
structure AppendsOutput (gpuList : List Char) (output : Nat → RunDiag → List Printed)
    (runOnce : Nat → Diag → Option (DcgmReturn × Diag)) : Prop where
  total : ∀ i d, d.drd.gpuList = gpuList → ∃ run, runOnce i d = some run
  frame : ∀ i d run, runOnce i d = some run → d.SameRequest run.2
  appends : ∀ i d run, runOnce i d = some run → d.jsonOutput = false → run.2.stdout = d.stdout ++ output i d.drd

/-- `RunDiagOnce`, with each iteration's engine and a GPU filter inside the per-GPU array,
appends `textRunOutput` in text mode. -/
theorem appendsOutput_runDiagOnce (lib : Library) (envs : Nat → Environment) (gpuList : List Char)
    (inRange : ∀ gpuIndex ∈ parseGpuList gpuList, gpuIndex < dcgmMaxNumDevices) :
    AppendsOutput gpuList (fun i => textRunOutput lib (envs i)) (fun i => runDiagOnce lib (envs i)) :=
  ⟨fun i d filter => runDiagOnce_exists lib (envs i) d (filter ▸ inRange), fun i => runDiagOnce_frame lib (envs i),
    fun i d run ran text => runDiagOnce_text_prints lib (envs i) d run text ran⟩

section Transcript

variable (lib : Library) {gpuList : List Char} {output : Nat → RunDiag → List Printed}
  {runOnce : Nat → Diag → Option (DcgmReturn × Diag)}

/-- The loop of an iterated text run from iteration `i` makes `n` calls, and prints for
each of them its announcement and then the output of its request, and nothing else. -/
theorem iterationLoop_transcript (appending : AppendsOutput gpuList output runOnce) (remaining i : Nat)
    (state : Iterated) (filter : state.diag.drd.gpuList = gpuList) (text : state.diag.jsonOutput = false)
    (ok : state.overallRet = dcgmStOk) :
    ∃ final n, iterationLoop lib runOnce remaining i state = some final ∧
      final.calls.length = state.calls.length + n ∧ (remaining ≠ 0 → n ≠ 0) ∧
      final.diag.jsonOutput = false ∧ final.diag.iterations = state.diag.iterations ∧
      final.diag.stdout = state.diag.stdout ++ (List.range' i n).flatMap fun k =>
        .text (runningIteration k state.diag.iterations) :: output k { state.diag.drd with currentIteration := k } := by
  induction remaining generalizing i state with
  | zero => exact ⟨state, 0, rfl, by simp, by simp, text, rfl, by simp⟩
  | succ remaining inductionHypothesis =>
    have started : state.diag.startIteration i =
        { state.diag.print [.text (runningIteration i state.diag.iterations)] with
          drd := { state.diag.drd with currentIteration := i } } := by
      simp [Diag.startIteration, text]
    obtain ⟨⟨ret, d'⟩, ran⟩ := appending.total i (state.diag.startIteration i) (by simp [started, filter])
    obtain ⟨sameDrd, sameJson, sameIterations⟩ := appending.frame _ _ _ ran
    have appended := appending.appends _ _ _ ran (by simp [started, text])
    simp only [started, Diag.print] at sameDrd sameJson sameIterations appended
    by_cases passed : ret = dcgmStOk
    · obtain ⟨final, n, looped, calls, made, json, iterations, transcript⟩ := inductionHypothesis (i + 1)
        { state with diag := d', output := state.output.update [.key .nvvsIterations, .index i] d'.jsonTmpValue,
                     calls := state.calls ++ [((state.diag.startIteration i).drd, ret)] }
        (by simp [sameDrd, filter]) (by simpa [sameJson] using text) ok
      refine ⟨final, n + 1, by simpa [iterationLoop, ran, passed] using looped, by simp [calls]; omega,
        by simp, json, by simpa [sameIterations] using iterations, ?_⟩
      simp only at transcript
      rw [transcript, appended, sameIterations, sameDrd, List.range'_succ, List.flatMap_cons]
      simp
    · refine ⟨_, 1, by simp [iterationLoop, ran, passed]; rfl, by simp, by simp, by simpa using sameJson.trans text,
        sameIterations, by simp [appended]⟩

/-- `RunStartDiag` in an iterated text run: the transcript of its loop, and the closing
line. -/
theorem runStartDiag_text_loop (d : Diag) (appending : AppendsOutput d.drd.gpuList output runOnce)
    (text : d.jsonOutput = false) (iterated : 1 < d.iterations) :
    ∃ ret d' calls, runStartDiag lib runOnce d = some (ret, d', calls) ∧ 0 < calls.length ∧
      d'.stdout = d.stdout ++ (((List.range calls.length).flatMap fun k =>
          .text (runningIteration k d.iterations) ::
            output k { d.drd with totalIterations := d.iterations, currentIteration := k }) ++
        [.text (if ret = dcgmStOk then "Passed all ".toList ++ (Nat.repr d.iterations).toList ++
            " runs of the diagnostic".toList
          else "Aborting the iterative runs of the diagnostic due to failure: ".toList ++ lib.errorString ret)]) := by
  obtain ⟨final, n, looped, calls, made, json, iterations, transcript⟩ := iterationLoop_transcript lib appending
    d.iterations 0 ⟨{ d with drd := { d.drd with totalIterations := d.iterations } }, .null, dcgmStOk, []⟩ rfl text rfl
  simp only [List.length_nil, zero_add] at calls
  refine ⟨final.overallRet, final.diag.finishIterations lib final.output final.overallRet, final.calls,
    by simp [runStartDiag, show ¬d.iterations ≤ 1 by omega, looped], by rw [calls]; exact Nat.pos_of_ne_zero (made (by omega)), ?_⟩
  simp only at iterations transcript
  rw [calls, List.range_eq_range']
  by_cases passed : final.overallRet = dcgmStOk <;>
    simp [Diag.finishIterations, json, passed, iterations, transcript, Diag.print]

end Transcript

/-- The transcript of an iterated text run of `RunDiagOnce` whose GPU filter names only
slots of the per-GPU array, whatever each iteration's engine does: for each iteration
run, in order, the line `Running iteration k of N...` followed by what a text run prints
for that iteration's request and engine, its failure message, its system error or its
report, and then one closing line, `Passed all N runs of the diagnostic` when the
outcome is `DCGM_ST_OK` and the abort line with the outcome's error string
otherwise. -/
theorem runStartDiag_text_transcript (lib : Library) (envs : Nat → Environment) (d : Diag)
    (text : d.jsonOutput = false) (iterated : 1 < d.iterations)
    (inRange : ∀ gpuIndex ∈ parseGpuList d.drd.gpuList, gpuIndex < dcgmMaxNumDevices) :
    ∃ ret d' calls, runStartDiag lib (fun i => runDiagOnce lib (envs i)) d = some (ret, d', calls) ∧
      0 < calls.length ∧
      d'.stdout = d.stdout ++ (((List.range calls.length).flatMap fun k =>
          .text (runningIteration k d.iterations) ::
            textRunOutput lib (envs k) { d.drd with totalIterations := d.iterations, currentIteration := k }) ++
        [.text (if ret = dcgmStOk then "Passed all ".toList ++ (Nat.repr d.iterations).toList ++
            " runs of the diagnostic".toList
          else "Aborting the iterative runs of the diagnostic due to failure: ".toList ++ lib.errorString ret)]) :=
  runStartDiag_text_loop lib d (appendsOutput_runDiagOnce lib envs d.drd.gpuList inRange) text iterated

/-- A text request for two iterations. -/
def twoTextIterations : Diag := ⟨⟨0, 0, [], [], 0, 0⟩, false, 2, .null, []⟩

/-- The transcript law at two text iterations with DCGM paused. -/
theorem runStartDiag_text_transcript_paused :
    (∀ gpuIndex ∈ parseGpuList twoTextIterations.drd.gpuList, gpuIndex < dcgmMaxNumDevices) ∧
      ∃ ret d' calls, runStartDiag ⟨fun _ => .monitor, fun _ => [], []⟩
          (fun _ => runDiagOnce ⟨fun _ => .monitor, fun _ => [], []⟩ pausedEngine) twoTextIterations =
            some (ret, d', calls) ∧
        0 < calls.length ∧
        d'.stdout = twoTextIterations.stdout ++ (((List.range calls.length).flatMap fun k =>
            .text (runningIteration k twoTextIterations.iterations) ::
              textRunOutput ⟨fun _ => .monitor, fun _ => [], []⟩ pausedEngine { twoTextIterations.drd with
                totalIterations := twoTextIterations.iterations, currentIteration := k }) ++
          [.text (if ret = dcgmStOk then "Passed all ".toList ++ (Nat.repr twoTextIterations.iterations).toList ++
              " runs of the diagnostic".toList
            else "Aborting the iterative runs of the diagnostic due to failure: ".toList ++
              Library.errorString ⟨fun _ => .monitor, fun _ => [], []⟩ ret)]) :=
  ⟨by decide, runStartDiag_text_transcript _ _ twoTextIterations rfl (by decide) (by decide)⟩

end DcgmiDiag
