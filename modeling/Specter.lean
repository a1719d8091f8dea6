import Specter.Outcomes
import Specter.LastKnown
import Specter.Bus
import Specter.Position
import Specter.Schedule
import Specter.ClockSteps
import Specter.InstallContract
import Specter.UpdateRuns
import Specter.Isolation
import Specter.Reprofile
import Specter.Selection
import Specter.Sentinels
import Specter.Coordinates
import Specter.FixGate
import Specter.Encoding
import Specter.Hardware
import Specter.Masking
import Specter.Rerun
import Specter.ApiKey
import Specter.Rekey
import Specter.Arguments
import Specter.DryRun
import Specter.Grammar
import Specter.FirstSent
import Specter.WifiStart
import Specter.CameraRelay
import Specter.Alarms
import Specter.Lifecycle
import Specter.Upkeep
import Specter.Journal
import Specter.ReorderTimer
import Specter.CcmpFrames
import Specter.DefragPackets
import Specter.RecvFunc
import Specter.Render
