import DcgmiDiag.RunStartDiag

/-!
# The diagnostic command: `StartDiag`

The constructor of `StartDiag` checks the command's arguments before anything runs.
A parameter string must be a `;`-separated list whose every entry has an `=`; when
there is none, a configuration file must be no larger than `DCGM_MAX_CONFIG_FILE_LEN`
and must open, and its contents go into the request; in every case the request's GPU
list must then pass `validGpuListFormat`. A failed check throws
`TCLAP::CmdLineParseException`; the model answers `.error` with its message. The
parameter string takes precedence: when it is given, the configuration file is never
looked at, and an entry without `=`, the empty entry of a doubled or trailing `;`
included, rejects the command. The GPU list check reads only the first character of
each token, so a token such as `1a` passes it.

`DoExecuteConnected` runs `RunStartDiag` against the host engine it connected to, and
`DoExecuteConnectionFailure` runs it on an embedded host engine it starts and stops,
or reports that none could be started. Both also set and clear the global
`diag_hostname`, which nothing in this file reads.
-/

namespace DcgmiDiag

/-- What the constructor reads of the file system: `filesize`, which is `tellg` on a
stream opened at its end, and so `-1` for a file that does not open, and the contents
of a file, none when its stream is not good. -/
structure FileSystem where
  filesize : List Char → Int
  read : List Char → Option (List Char)

/-- `DCGM_MAX_CONFIG_FILE_LEN` and `dcgm_diag_common_set_config_file_contents`, which are
defined outside this tree. -/
structure DiagCommon where
  maxConfigFileLen : Nat
  setConfigFileContents : List Char → RunDiag → RunDiag

/-- A `StartDiag` object: the host name, whether a failed connection goes unreported,
and the `Diag` object it runs. -/
structure StartDiag where
  hostName : List Char
  silent : Bool
  diagObj : Diag

/-- The request `Diag::Diag` zero-fills. -/
def RunDiag.zero : RunDiag := ⟨0, 0, [], [], 0, 0⟩

/-- `Diag::Diag`: text output, the iteration count and a zeroed request. -/
def Diag.new (iterations : Nat) : Diag := ⟨RunDiag.zero, false, iterations, .null, []⟩

/-- The message for a parameter string with an entry without `=`. -/
def improperParms (parms : List Char) : List Char :=
  "Improperly formatted parameters argument: '".toList ++ parms ++
    "'. Argument must follow the format: test_name.attr_name=attr_value[;...]".toList

/-- The message for a configuration file over the limit. -/
def configFileTooLarge (size : Int) (maxConfigFileLen : Nat) : List Char :=
  "Config file too large. Its size (".toList ++ (toString size).toList ++ ") exceeds ".toList ++
    (Nat.repr maxConfigFileLen).toList

/-- The message for a configuration file that does not open. -/
def couldNotOpenConfig (configPath : List Char) : List Char :=
  "Could not open configuration file: '".toList ++ configPath ++ "'".toList

/-- The message for a GPU list that `validGpuListFormat` refuses. -/
def gpuListMalformed (gpuList : List Char) : List Char :=
  "Gpu list '".toList ++ gpuList ++ "' must be a comma-separated list of numbers".toList

/-- The parameter and configuration branches of the constructor: the request they leave. -/
def StartDiag.readParms (fs : FileSystem) (common : DiagCommon) (parms configPath : List Char) (drd : RunDiag) :
    Except (List Char) RunDiag :=
  if !parms.isEmpty then
    if (dcgmTokenizeString parms ';').all fun parm => parm.contains '=' then pure drd
    else throw (improperParms parms)
  else if !configPath.isEmpty then
    if fs.filesize configPath > common.maxConfigFileLen then
      throw (configFileTooLarge (fs.filesize configPath) common.maxConfigFileLen)
    else
      match fs.read configPath with
      | some contents => pure (common.setConfigFileContents contents drd)
      | none => throw (couldNotOpenConfig configPath)
  else pure drd

/-- `StartDiag::StartDiag`. -/
def StartDiag.new (fs : FileSystem) (common : DiagCommon) (hostname : List Char) (hostAddressWasOverridden : Bool)
    (parms configPath : List Char) (jsonOutput : Bool) (drd : RunDiag) (iterations : Nat) :
    Except (List Char) StartDiag := do
  let drd ← StartDiag.readParms fs common parms configPath drd
  if validGpuListFormat drd.gpuList then
    pure ⟨hostname, !hostAddressWasOverridden, { Diag.new iterations with drd := drd, jsonOutput := jsonOutput }⟩
  else throw (gpuListMalformed drd.gpuList)

/-- The parameter and configuration branches reject for one of three reasons, each with
the message that quotes what failed. -/
theorem StartDiag.readParms_error (fs : FileSystem) (common : DiagCommon) (parms configPath : List Char)
    (drd : RunDiag) (msg : List Char) (rejected : StartDiag.readParms fs common parms configPath drd = .error msg) :
    (parms ≠ [] ∧ (∃ parm ∈ dcgmTokenizeString parms ';', '=' ∉ parm) ∧ msg = improperParms parms) ∨
      (parms = [] ∧ configPath ≠ [] ∧ common.maxConfigFileLen < fs.filesize configPath ∧
        msg = configFileTooLarge (fs.filesize configPath) common.maxConfigFileLen) ∨
      (parms = [] ∧ configPath ≠ [] ∧ fs.filesize configPath ≤ common.maxConfigFileLen ∧ fs.read configPath = none ∧
        msg = couldNotOpenConfig configPath) := by
  unfold StartDiag.readParms at rejected
  cases parmsEmpty : parms.isEmpty
  · have given : parms ≠ [] := fun empty => by simp [empty] at parmsEmpty
    simp only [parmsEmpty, Bool.not_false, if_true] at rejected
    split at rejected
    · cases rejected
    · next notAll =>
      cases rejected
      refine .inl ⟨given, ?_, rfl⟩
      simpa using notAll
  · have empty : parms = [] := List.isEmpty_iff.mp parmsEmpty
    simp only [parmsEmpty, Bool.not_true] at rejected
    cases pathEmpty : configPath.isEmpty
    · have path : configPath ≠ [] := fun empty => by simp [empty] at pathEmpty
      simp only [pathEmpty, Bool.not_false, if_true, Bool.false_eq_true, if_false] at rejected
      split at rejected
      · next tooLarge =>
        cases rejected
        exact .inr (.inl ⟨empty, path, tooLarge, rfl⟩)
      · next fits =>
        split at rejected
        · cases rejected
        · next unread =>
          cases rejected
          exact .inr (.inr ⟨empty, path, not_lt.mp fits, unread, rfl⟩)
    · simp only [pathEmpty, Bool.not_true, Bool.false_eq_true, if_false] at rejected
      cases rejected

/-- A rejected command failed the parameter or configuration checks, or, after them,
`validGpuListFormat` on the request they left, with the message that quotes that
request's GPU list. -/
theorem StartDiag.new_error (fs : FileSystem) (common : DiagCommon) (hostname : List Char)
    (hostAddressWasOverridden : Bool) (parms configPath : List Char) (jsonOutput : Bool) (drd : RunDiag)
    (iterations : Nat) (msg : List Char)
    (rejected : StartDiag.new fs common hostname hostAddressWasOverridden parms configPath jsonOutput drd iterations =
      .error msg) :
    StartDiag.readParms fs common parms configPath drd = .error msg ∨
      ∃ drd', StartDiag.readParms fs common parms configPath drd = .ok drd' ∧
        validGpuListFormat drd'.gpuList = false ∧ msg = gpuListMalformed drd'.gpuList := by
  unfold StartDiag.new at rejected
  cases read : StartDiag.readParms fs common parms configPath drd with
  | error e =>
    rw [read] at rejected
    cases rejected
    exact .inl rfl
  | ok drd' =>
    rw [read] at rejected
    refine .inr ⟨drd', rfl, ?_⟩
    dsimp only [bind, Except.bind] at rejected
    split at rejected
    · cases rejected
    · next invalid =>
      cases rejected
      exact ⟨by simpa using invalid, rfl⟩

/-- An accepted command carries the request the parameter and configuration branches
left, whose GPU list passed `validGpuListFormat`, in a `Diag` object with nothing
printed, the format and count asked for, and a failed connection unreported unless the
host address was given. -/
theorem StartDiag.new_ok (fs : FileSystem) (common : DiagCommon) (hostname : List Char)
    (hostAddressWasOverridden : Bool) (parms configPath : List Char) (jsonOutput : Bool) (drd : RunDiag)
    (iterations : Nat) (sd : StartDiag)
    (accepted : StartDiag.new fs common hostname hostAddressWasOverridden parms configPath jsonOutput drd iterations =
      .ok sd) :
    ∃ drd', StartDiag.readParms fs common parms configPath drd = .ok drd' ∧ validGpuListFormat drd'.gpuList = true ∧
      sd = ⟨hostname, !hostAddressWasOverridden, { Diag.new iterations with drd := drd', jsonOutput := jsonOutput }⟩ := by
  unfold StartDiag.new at accepted
  cases read : StartDiag.readParms fs common parms configPath drd with
  | error e =>
    rw [read] at accepted
    cases accepted
  | ok drd' =>
    rw [read] at accepted
    dsimp only [bind, Except.bind] at accepted
    split at accepted
    · next valid =>
      cases accepted
      exact ⟨drd', rfl, valid, rfl⟩
    · cases accepted

/-- The GPU list `1a,2`, whose first token is not a number, passes the constructor's check,
whose message says a list must be "a comma-separated list of numbers", and runs as
the GPUs 1 and 2. -/
theorem startDiag_accepts_letters_in_gpu_list :
    (StartDiag.new ⟨fun _ => 0, fun _ => none⟩ ⟨0, fun _ drd => drd⟩ [] false [] [] false
        { RunDiag.zero with gpuList := "1a,2".toList } 1).isOk = true ∧
      parseGpuList "1a,2".toList = [1, 2] := by
  decide

section Execute

variable (lib : Library) (runOnce : Nat → Diag → Option (DcgmReturn × Diag))

/-- `StartDiag::DoExecuteConnected`: the run against the connected host engine. -/
def StartDiag.doExecuteConnected (sd : StartDiag) : Option (DcgmReturn × StartDiag) := do
  let (ret, d, _) ← runStartDiag lib runOnce sd.diagObj
  pure (ret, { sd with silent := true, diagObj := d })

/-- `StartDiag::DoExecuteConnectionFailure`, given what `dcgmStartEmbedded_v2` returns: the
run on the embedded host engine, or the message that none could be started. The last
component says whether `dcgmStopEmbedded` was called. -/
def StartDiag.doExecuteConnectionFailure (startEmbedded : DcgmReturn) (sd : StartDiag) :
    Option (DcgmReturn × StartDiag × Bool) :=
  if startEmbedded ≠ dcgmStOk then
    some (startEmbedded, { sd with silent := true, diagObj := (sd.diagObj.print
      [.text ("Error: Unable to start an embedded host engine. ".toList ++ lib.errorString startEmbedded ++
        ".".toList)]) }, false)
  else do
    let (ret, d, _) ← runStartDiag lib runOnce sd.diagObj
    pure (ret, { sd with silent := true, diagObj := d }, true)

end Execute

end DcgmiDiag
