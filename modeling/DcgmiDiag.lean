import DcgmiDiag.Structs
import DcgmiDiag.Sanitize
import DcgmiDiag.FailureResult
import DcgmiDiag.GpuList
import DcgmiDiag.Json
import DcgmiDiag.Display
import DcgmiDiag.JsonReport
import DcgmiDiag.TextReport
import DcgmiDiag.Details
import DcgmiDiag.TextLayout
import DcgmiDiag.RunDiagOnce
import DcgmiDiag.RunStartDiag
import DcgmiDiag.RunOutput
import DcgmiDiag.Format
import DcgmiDiag.StartDiag
import DcgmiDiag.Signals
import DcgmiDiag.Agreement
