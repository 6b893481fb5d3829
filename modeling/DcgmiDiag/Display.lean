import DcgmiDiag.Structs

/-!
# Names and labels shared by the two reports

Both the text report and the JSON report name a test by `HelperGetPluginName` and
label a status by `HelperDisplayDiagResult`, which knows three labels for five
statuses: everything that is neither a pass nor a skip reads `Fail`, a warning and a
test that did not run included.

Each report files the per-GPU tests under a category of its own: the text report by
which section helper displays a test, the JSON report by a switch on the test index,
`jsonCategory` here.
-/

namespace DcgmiDiag

/-- The section headers: `DISPLAY_DEPLOYMENT`, `DISPLAY_INTEGRATION`,
`DISPLAY_HARDWARE` and `DISPLAY_STRESS`. -/
inductive Category where
  | deployment
  | integration
  | hardware
  | stress
  deriving DecidableEq, Repr

/-- The display text of a section header. -/
def Category.name : Category → List Char
  | deployment => "Deployment".toList
  | integration => "Integration".toList
  | hardware => "Hardware".toList
  | stress => "Stress".toList

/-- `levelOneTests`, in the order of `dcgmSoftwareTest_enum`. -/
def levelOneTests : List (List Char) :=
  ["Denylist", "NVML Library", "CUDA Main Library", "CUDA Toolkit Library",
    "Permissions and OS Blocks", "Persistence Mode", "Environment Variables",
    "Page Retirement/Row Remap", "Graphics Processes", "Inforom"].map String.toList

/-- `levelOneTests[i]`; past the table the source reads other memory, the model an
empty name. -/
def levelOneTestName (i : Nat) : List Char := levelOneTests.getD i []

/-- `CTXCREATE_PLUGIN_NAME` of `PluginStrings.h`. -/
def ctxcreatePluginName : List Char := "context_create".toList

/-- `!strcasecmp(m_drd.testNames[0], CTXCREATE_PLUGIN_NAME)`: the request names the
context-create test first. -/
def isContextCreateRun (drd : RunDiag) : Bool :=
  (drd.testNames.headD []).map Char.toLower == ctxcreatePluginName

/-- `Diag::HelperDisplayDiagResult`. -/
def helperDisplayDiagResult (val : DiagResult) : List Char :=
  if val = .pass then "Pass".toList
  else if val = .skip then "Skip".toList
  else "Fail".toList

/-- `Diag::HelperGetPluginName`: the display name of a per-GPU test index, empty for an
index it does not know. -/
def helperGetPluginName (drd : RunDiag) (index : Nat) : List Char :=
  if index = dcgmMemoryIndex then
    if isContextCreateRun drd then "Context Create".toList else "GPU Memory".toList
  else if index = dcgmDiagnosticIndex then "Diagnostic".toList
  else if index = dcgmPciIndex then "PCIe".toList
  else if index = dcgmSmStressIndex then "SM Stress".toList
  else if index = dcgmTargetedStressIndex then "Targeted Stress".toList
  else if index = dcgmTargetedPowerIndex then "Targeted Power".toList
  else if index = dcgmMemoryBandwidthIndex then "Memory Bandwidth".toList
  else if index = dcgmMemtestIndex then "Memtest".toList
  else if index = dcgmPulseTestIndex then "Pulse Test".toList
  else if index = dcgmEudTestIndex then "EUD Test".toList
  else if index = dcgmContextCreateIndex then "Context Create".toList
  else []

/-- The `switch (pluginIndex)` of `HelperJsonBuildOutput`: the category a test that
ran is filed under in the JSON report. -/
def jsonCategory (pluginIndex : Nat) : Option Category :=
  if pluginIndex = dcgmMemoryIndex ∨ pluginIndex = dcgmDiagnosticIndex ∨
      pluginIndex = dcgmPulseTestIndex ∨ pluginIndex = dcgmEudTestIndex then some .hardware
  else if pluginIndex = dcgmPciIndex then some .integration
  else if pluginIndex = dcgmSmStressIndex ∨ pluginIndex = dcgmTargetedStressIndex ∨
      pluginIndex = dcgmTargetedPowerIndex ∨ pluginIndex = dcgmMemoryBandwidthIndex ∨
      pluginIndex = dcgmMemtestIndex then some .stress
  else none

end DcgmiDiag
