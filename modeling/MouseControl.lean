import MouseControl.Line.Replay
import MouseControl.Proofs.Command.Exchange
import MouseControl.Proofs.Command.Push
import MouseControl.Proofs.Device.Configuration
import MouseControl.Proofs.Device.Setting
import MouseControl.Proofs.Line.Keeps
import MouseControl.Proofs.Line.Traffic
import MouseControl.Proofs.Session.Applied
import MouseControl.Proofs.Session.Claiming
import MouseControl.Proofs.Session.Commit
import MouseControl.Proofs.Session.Revision
import MouseControl.Proofs.Session.Run
import MouseControl.Proofs.Wire.Frame
import MouseControl.Session.Create
import MouseControl.Session.Step
import MouseControl.Text.Environment
import MouseControl.Proofs.Line.Ledger
import MouseControl.Proofs.Session.Ownership
import MouseControl.Proofs.Line.Agree
import MouseControl.Proofs.Line.Abreast
import MouseControl.Proofs.Line.Alike
import MouseControl.Proofs.Command.Alike
import MouseControl.Proofs.Session.Alike
import MouseControl.Proofs.Session.Tuning
import MouseControl.Proofs.Session.OnLine
import MouseControl.Proofs.Session.Turns
import MouseControl.Proofs.Command.Turn
import MouseControl.Proofs.Command.Failure
import MouseControl.Proofs.Session.Refusal
import MouseControl.Proofs.Session.Encodable
import MouseControl.Proofs.Session.History
import MouseControl.Proofs.Session.Dirtiness
import MouseControl.Proofs.Session.Hearing
import MouseControl.Proofs.Backend.Attachment
import MouseControl.Proofs.Backend.Custody
import MouseControl.Proofs.Line.Pacing
import MouseControl.Proofs.Line.Twin
import MouseControl.Proofs.Backend.Interchange
import MouseControl.Proofs.Backend.Usability
import MouseControl.Proofs.Session.SettingUp
import MouseControl.Proofs.Command.Remark
import MouseControl.Proofs.Session.Remarks
import MouseControl.Proofs.Command.Echo
import MouseControl.Proofs.Session.Renewal
import MouseControl.Proofs.Wire.Codec
import MouseControl.Proofs.Wire.Corruption
import MouseControl.Proofs.Backend.Translation
import MouseControl.Proofs.Line.Time
import MouseControl.Proofs.Line.Attempts
import MouseControl.Proofs.Line.Course
import MouseControl.Proofs.Line.Exact
import MouseControl.Proofs.Command.Probe
import MouseControl.Proofs.Session.Recommit
import MouseControl.Proofs.Device.Resolution
import MouseControl.Proofs.Session.Resolution
import MouseControl.Proofs.Device.Sharing
import MouseControl.Proofs.Session.Axes
import MouseControl.Proofs.Session.Findings
import MouseControl.Proofs.Command.Send
import MouseControl.Proofs.Line.Effort
import MouseControl.Proofs.Session.Effort
import MouseControl.Proofs.Json.Grammar
import MouseControl.Proofs.Json.Atoms
import MouseControl.Proofs.Json.Reading
import MouseControl.Proofs.Number.Nearest
import MouseControl.Proofs.Settings.File
import MouseControl.Proofs.Settings.Reading
import MouseControl.Proofs.Number.Order
import MouseControl.Proofs.Session.Policies
import MouseControl.Proofs.Settings.Path
import MouseControl.Proofs.Backend.Selection
import MouseControl.Proofs.Device.Firmware
import MouseControl.Proofs.Session.Firmware
