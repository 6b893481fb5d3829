import DcgmiDiag.RunDiagOnce

/-!
# Iterated runs: `Diag::RunStartDiag`

A request for at most one iteration is a single `RunDiagOnce`. For more, the loop
stamps the request with the iteration count and each iteration's number, calls
`RunDiagOnce`, copies `m_jsonTmpValue` into `iterations[i]` of its own document, and
stops at the first outcome other than `DCGM_ST_OK`, which becomes the overall outcome.
In JSON mode it prints its document at the end, in text mode a closing line.

The loop is written over an arbitrary one-run function, so that its laws hold for
every sequence of outcomes; the program's instance is `RunDiagOnce` with the engine of
each iteration, and `runDiagOnce_frame` gives it what the laws assume of the one-run
function. The loop state carries, as ghost data, the request and the outcome of every
call made so far.
-/

namespace DcgmiDiag

/-! ## What a run leaves alone -/

@[simp] theorem Diag.print_drd (d : Diag) (printed : List Printed) : (d.print printed).drd = d.drd := rfl

@[simp] theorem Diag.print_jsonOutput (d : Diag) (printed : List Printed) :
    (d.print printed).jsonOutput = d.jsonOutput := rfl

@[simp] theorem Diag.print_iterations (d : Diag) (printed : List Printed) :
    (d.print printed).iterations = d.iterations := rfl

/-- The fields of the `Diag` object that a rendering keeps. -/
def Diag.SameRequest (d d' : Diag) : Prop :=
  d'.drd = d.drd ∧ d'.jsonOutput = d.jsonOutput ∧ d'.iterations = d.iterations

theorem Diag.sameRequest_print (d : Diag) (printed : List Printed) : d.SameRequest (d.print printed) :=
  ⟨rfl, rfl, rfl⟩

theorem Diag.sameRequest_helperDisplayFailureMessage (lib : Library) (d : Diag) (errMsg : List Char) :
    d.SameRequest (d.helperDisplayFailureMessage lib errMsg) := by
  unfold Diag.helperDisplayFailureMessage
  split <;> exact d.sameRequest_print _

theorem Diag.sameRequest_render (d : Diag) (diagResult : DiagResponse)
    (gpuIndices : List (Fin dcgmMaxNumDevices)) : d.SameRequest (d.render diagResult gpuIndices) := by
  unfold Diag.render Diag.helperDisplayAsJson
  split
  · split
    · exact d.sameRequest_print _
    · exact ⟨rfl, rfl, rfl⟩
  · exact d.sameRequest_print _

theorem Diag.sameRequest_reportEngineFailure (lib : Library) (env : Environment) (d : Diag)
    (result : DcgmReturn) (diagResult : DiagResponse) :
    d.SameRequest (d.reportEngineFailure lib env result diagResult) :=
  d.sameRequest_helperDisplayFailureMessage lib _

/-- `RunDiagOnce` writes only the output and `m_jsonTmpValue`: the request, the format
and the iteration count are those it was called with. -/
theorem runDiagOnce_frame (lib : Library) (env : Environment) (d : Diag) (run : DcgmReturn × Diag)
    (ran : runDiagOnce lib env d = some run) : d.SameRequest run.2 := by
  simp only [runDiagOnce, Diag.reportResults] at ran
  split at ran
  · split at ran
    · cases ran
      exact d.sameRequest_helperDisplayFailureMessage lib _
    · obtain ⟨gpuIndices, -, rendered⟩ := Option.bind_eq_some.mp ran
      cases rendered
      exact d.sameRequest_render _ _
  · cases ran
    exact d.sameRequest_reportEngineFailure lib env _ _

/-! ## The loop -/

/-- The state of the loop of `RunStartDiag`: the `Diag` object, the document being
built, the overall outcome, and, as ghost data, the request and the outcome of each
`RunDiagOnce` call. -/
structure Iterated where
  diag : Diag
  output : JsonValue
  overallRet : DcgmReturn
  calls : List (RunDiag × DcgmReturn)

/-- The text line before iteration `i`. -/
def runningIteration (i iterations : Nat) : List Char :=
  "\nRunning iteration ".toList ++ (Nat.repr (i + 1)).toList ++ " of ".toList ++
    (Nat.repr iterations).toList ++ "...\n".toList

/-- The `Diag` object as iteration `i` hands it to `RunDiagOnce`: announced in text
mode, and with the iteration's number in the request. -/
def Diag.startIteration (d : Diag) (i : Nat) : Diag :=
  let d := if d.jsonOutput then d else d.print [.text (runningIteration i d.iterations)]
  { d with drd := { d.drd with currentIteration := i } }

@[simp] theorem Diag.startIteration_drd (d : Diag) (i : Nat) :
    (d.startIteration i).drd = { d.drd with currentIteration := i } := by
  unfold Diag.startIteration
  split <;> rfl

/-- The calls of the one-run function from iteration `i` on the object `d`, each a real
call: it is handed the object `startIteration` makes of the one before, the first of
`d`, and returns the outcome it records and the next object; `last` is the object the
last call returned. -/
inductive RunsFrom (runOnce : Nat → Diag → Option (DcgmReturn × Diag)) :
    Nat → Diag → List (RunDiag × DcgmReturn) → Diag → Prop where
  | stopped (i : Nat) (d : Diag) : RunsFrom runOnce i d [] d
  | called {i : Nat} {d next last : Diag} {ret : DcgmReturn} {calls : List (RunDiag × DcgmReturn)}
      (observed : runOnce i (d.startIteration i) = some (ret, next))
      (tail : RunsFrom runOnce (i + 1) next calls last) :
      RunsFrom runOnce i d (((d.startIteration i).drd, ret) :: calls) last

section Loop

variable (lib : Library) (runOnce : Nat → Diag → Option (DcgmReturn × Diag))

/-- The loop of `RunStartDiag` from iteration `i` with `remaining` iterations left. -/
def iterationLoop : Nat → Nat → Iterated → Option Iterated
  | 0, _, state => some state
  | remaining + 1, i, state => do
    let d := state.diag.startIteration i
    let (ret, d') ← runOnce i d
    let output := state.output.update [.key .nvvsIterations, .index i] d'.jsonTmpValue
    let state := { state with diag := d', output := output, calls := state.calls ++ [(d.drd, ret)] }
    if ret ≠ dcgmStOk then
      some { state with
        overallRet := ret
        output := if d'.jsonOutput then
            (output.update [.key .nvvsResult] (.string "Fail".toList)).update [.key .nvvsWarning]
              (.string (lib.errorString ret))
          else output }
    else iterationLoop remaining (i + 1) state

/-- The closing output of `RunStartDiag`. -/
def Diag.finishIterations (d : Diag) (output : JsonValue) (overallRet : DcgmReturn) : Diag :=
  if d.jsonOutput then
    d.print [.json (if overallRet = dcgmStOk then output.update [.key .nvvsResult] (.string "Pass".toList)
      else output)]
  else if overallRet = dcgmStOk then
    d.print [.text ("Passed all ".toList ++ (Nat.repr d.iterations).toList ++
      " runs of the diagnostic".toList)]
  else
    d.print [.text ("Aborting the iterative runs of the diagnostic due to failure: ".toList ++
      lib.errorString overallRet)]

/-- `Diag::RunStartDiag`: the outcome, the `Diag` object after it, and, as ghost data,
the request and the outcome of each `RunDiagOnce` call. -/
def runStartDiag (d : Diag) : Option (DcgmReturn × Diag × List (RunDiag × DcgmReturn)) :=
  if d.iterations ≤ 1 then (runOnce 0 d).map fun run => (run.1, run.2, [(d.drd, run.1)])
  else do
    let d := { d with drd := { d.drd with totalIterations := d.iterations } }
    let final ← iterationLoop lib runOnce d.iterations 0 ⟨d, .null, dcgmStOk, []⟩
    pure (final.overallRet, final.diag.finishIterations lib final.output final.overallRet, final.calls)

/-! ## Which calls the loop makes -/

/-- What the loop assumes of the one-run function: it returns, and keeps the request. -/
structure Steady : Prop where
  total : ∀ i d, ∃ run, runOnce i d = some run
  keepsRequest : ∀ i d run, runOnce i d = some run → run.2.drd = d.drd

variable {runOnce}

/-- From iteration `i` with no failure so far, the loop makes a run of real calls
numbered `i, i+1, …`, each on the object the one before returned, on the current
request, all `DCGM_ST_OK` but the last, which ends the loop either by failing or by
being the last iteration; the overall outcome is the last call's. -/
theorem iterationLoop_calls (steady : Steady runOnce) (remaining i : Nat) (state : Iterated)
    (ok : state.overallRet = dcgmStOk) :
    ∃ final calls, iterationLoop lib runOnce remaining i state = some final ∧
      final.calls = state.calls ++ calls ∧ RunsFrom runOnce i state.diag calls final.diag ∧
      calls.map Prod.fst =
        (List.range' i calls.length).map (fun j => { state.diag.drd with currentIteration := j }) ∧
      calls.length ≤ remaining ∧ (remaining ≠ 0 → calls ≠ []) ∧
      (∀ call ∈ calls.dropLast, call.2 = dcgmStOk) ∧
      (calls.length = remaining ∨ final.overallRet ≠ dcgmStOk) ∧
      (calls.map Prod.snd).getLast?.getD dcgmStOk = final.overallRet := by
  induction remaining generalizing i state with
  | zero =>
    exact ⟨state, [], rfl, by simp, .stopped i state.diag, by simp, le_refl _, by simp, by simp, .inl rfl, ok.symm⟩
  | succ remaining inductionHypothesis =>
    obtain ⟨⟨ret, d'⟩, ran⟩ := steady.total i (state.diag.startIteration i)
    have kept : d'.drd = { state.diag.drd with currentIteration := i } := by
      simpa using steady.keepsRequest _ _ _ ran
    by_cases failed : ret = dcgmStOk
    · obtain ⟨final, calls, looped, finalCalls, runs, requests, bounded, nonempty, oks, ended, last⟩ :=
        inductionHypothesis (i + 1)
          { state with diag := d', calls := state.calls ++ [((state.diag.startIteration i).drd, ret)],
                       output := state.output.update [.key .nvvsIterations, .index i] d'.jsonTmpValue }
          ok
      refine ⟨final, ((state.diag.startIteration i).drd, ret) :: calls, ?_, ?_, .called ran runs, ?_, ?_, by simp,
        ?_, ?_, ?_⟩
      · simpa [iterationLoop, ran, failed] using looped
      · simp [finalCalls]
      · simp only [kept] at requests
        simp [requests, List.range'_succ]
      · simpa using bounded
      · cases calls with
        | nil => simp
        | cons _ _ => simpa [failed] using oks
      · exact ended.imp_left fun allRan => by simp [allRan]
      · cases calls with
        | nil => simpa [failed] using last
        | cons _ _ => simpa using last
    · refine ⟨_, [((state.diag.startIteration i).drd, ret)], by simp [iterationLoop, ran, failed]; rfl,
        by simp, .called ran (.stopped _ _), by simp, by simp, by simp, by simp, .inr failed, rfl⟩

/-- `RunStartDiag` with `N` iterations calls `RunDiagOnce` `k` times, `1 ≤ k ≤ N`, each
call a real call on the object the call before returned: the `i`-th call sees the
request with `totalIterations = N` and `currentIteration = i`, all calls but the last
return `DCGM_ST_OK`, the last one fails unless `k = N`, and the outcome is the last
call's, which is the first failure or `DCGM_ST_OK`; the object returned is the last
call's, closed by `finishIterations`. With `N ≤ 1` it is one call on the request as
given, whose outcome and object are returned. -/
theorem runStartDiag_calls (steady : Steady runOnce) (d : Diag) :
    ∃ ret d' calls, runStartDiag lib runOnce d = some (ret, d', calls) ∧
      if d.iterations ≤ 1 then runOnce 0 d = some (ret, d') ∧ calls = [(d.drd, ret)]
      else ∃ last output,
        RunsFrom runOnce 0 { d with drd := { d.drd with totalIterations := d.iterations } } calls last ∧
        d' = last.finishIterations lib output ret ∧
        calls.map Prod.fst = (List.range calls.length).map
          (fun i => { d.drd with totalIterations := d.iterations, currentIteration := i }) ∧
        0 < calls.length ∧ calls.length ≤ d.iterations ∧
        (∀ call ∈ calls.dropLast, call.2 = dcgmStOk) ∧
        (calls.length = d.iterations ∨ ret ≠ dcgmStOk) ∧
        (calls.map Prod.snd).getLast? = some ret := by
  by_cases single : d.iterations ≤ 1
  · obtain ⟨⟨ret, d'⟩, ran⟩ := steady.total 0 d
    exact ⟨ret, d', [(d.drd, ret)], by simp [runStartDiag, single, ran], by simp [single, ran]⟩
  · obtain ⟨final, calls, looped, finalCalls, runs, requests, bounded, nonempty, oks, ended, last⟩ :=
      iterationLoop_calls lib steady d.iterations 0
        ⟨{ d with drd := { d.drd with totalIterations := d.iterations } }, .null, dcgmStOk, []⟩ rfl
    have made : calls ≠ [] := nonempty (by omega)
    simp only [List.nil_append] at finalCalls
    subst finalCalls
    refine ⟨final.overallRet, final.diag.finishIterations lib final.output final.overallRet, final.calls,
      by simp [runStartDiag, single, looped], ?_⟩
    simp only [single, if_false]
    refine ⟨final.diag, final.output, runs, rfl, by simpa [List.range_eq_range'] using requests,
      List.length_pos.mpr made, bounded, oks, ended, ?_⟩
    rw [← last, List.getLast?_eq_getLast _ (by simpa using made)]
    rfl

end Loop

/-- A one-run function that prints the iteration's number and finds DCGM paused at the
second iteration. -/
def pausedAtSecond (i : Nat) (d : Diag) : Option (DcgmReturn × Diag) :=
  some (if i = 1 then dcgmStPaused else dcgmStOk, d.print [.text (Nat.repr i).toList])

/-- A text request for three iterations. -/
def threeTextIterations : Diag := ⟨⟨0, 0, [], [], 0, 0⟩, false, 3, .null, []⟩

/-- The law at three text iterations that stop at the second. -/
theorem runStartDiag_calls_paused_second :
    Steady pausedAtSecond ∧
      ∃ ret d' calls, runStartDiag ⟨fun _ => .monitor, fun _ => [], []⟩ pausedAtSecond threeTextIterations =
          some (ret, d', calls) ∧
        if threeTextIterations.iterations ≤ 1 then
          pausedAtSecond 0 threeTextIterations = some (ret, d') ∧ calls = [(threeTextIterations.drd, ret)]
        else ∃ last output,
          RunsFrom pausedAtSecond 0 { threeTextIterations with drd := { threeTextIterations.drd with
            totalIterations := threeTextIterations.iterations } } calls last ∧
          d' = last.finishIterations ⟨fun _ => .monitor, fun _ => [], []⟩ output ret ∧
          calls.map Prod.fst = (List.range calls.length).map (fun i => { threeTextIterations.drd with
            totalIterations := threeTextIterations.iterations, currentIteration := i }) ∧
          0 < calls.length ∧ calls.length ≤ threeTextIterations.iterations ∧
          (∀ call ∈ calls.dropLast, call.2 = dcgmStOk) ∧
          (calls.length = threeTextIterations.iterations ∨ ret ≠ dcgmStOk) ∧
          (calls.map Prod.snd).getLast? = some ret :=
  have steady : Steady pausedAtSecond := ⟨fun _ _ => ⟨_, rfl⟩, fun _ _ _ ran => by cases ran; rfl⟩
  ⟨steady, runStartDiag_calls _ steady _⟩

/-! ## The JSON output of an iterated run -/

/-- The JSON document a printed item carries. -/
def Printed.document? : Printed → Option JsonValue
  | .json doc => some doc
  | _ => none

/-- An engine that refuses to run while DCGM is paused. -/
def pausedEngine : Environment := ⟨false, fun _ diagResult => (dcgmStPaused, diagResult), dcgmStOk⟩

/-- Two JSON iterations, the first finding DCGM paused, print two documents: the
failure message of `RunDiagOnce` and the document of `RunStartDiag`, whose
`iterations[0]` is null. -/
theorem runStartDiag_paused_prints_two_documents :
    ((runStartDiag ⟨fun _ => .monitor, fun _ => [], []⟩
        (fun _ => runDiagOnce ⟨fun _ => .monitor, fun _ => [], []⟩ pausedEngine)
        ⟨⟨0, 0, [], [], 0, 0⟩, true, 2, .null, []⟩).map fun run =>
      (run.2.1.stdout.map fun printed => printed.document?.isSome,
        (run.2.1.stdout.getLast?.bind Printed.document?).map fun doc =>
          (doc.get [.key .nvvsIterations, .index 0]).isNull)) =
      some ([true, true], some true) := by
  decide

end DcgmiDiag
